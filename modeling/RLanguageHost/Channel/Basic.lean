import RLanguageHost.Attempt
import RLanguageHost.Files.Failure
import RLanguageHost.Text.Utf8

/-!
# Channels

A channel carries text to a peer and from it. Its user sees two queues, one of messages to be
written and one of texts that have arrived; a writer and a reader in the background move between the
queues and the byte streams of the peer.

A channel is connected until it is closed or cancelled. That the peer has ended its stream, or takes
no more bytes, does not disconnect it: the first shows when all that arrived has been received, the
second when the next message is sent.
-/

namespace RLanguageHost

namespace Channel

/-- Why a channel refuses to send or receive. -/
inductive Error where
  | input (failure : Failure)
  | disconnected
  | broken (text : String)
  deriving Repr, DecidableEq, Inhabited

def Error.message : Error → String
  | .input failure => "I/O error: " ++ failure.message
  | .disconnected => "Transport is disconnected"
  | .broken text => "Channel error: " ++ text

/-- The error of sending to a channel whose writer has ended. -/
def Error.writerGone : Error :=
  .broken "channel closed"

/-- What one `receive` gives. -/
inductive Arrival where
  | text (chars : List Char)
  | fault (failure : Failure)
  deriving Repr, DecidableEq

/-- What a peer's stream gives to one read. -/
inductive Delivery where
  | bytes (block : Bytes)
  | fault (failure : Failure)
  | endOfStream
  deriving Repr, DecidableEq

/-- The reader in the background. -/
structure Reader where
  /-- What the peer has delivered and the reader has not read. -/
  deliveries : List Delivery := []
  /-- Bytes that were read and are the beginning of a character. -/
  held : Bytes := []
  finished : Bool := false
  deriving Repr, DecidableEq, Inhabited

/-- What the writer in the background is at. -/
inductive WriterPhase where
  /-- It waits for a message. -/
  | idle
  /-- It has still to write the rest of a message. -/
  | writing (rest : Bytes)
  /-- It has written a message and is to flush it. -/
  | flushing
  | finished
  deriving Repr, DecidableEq, Inhabited

/-- The writer in the background, and what the peer does with the bytes. -/
structure Writer where
  phase : WriterPhase := .idle
  /-- All bytes that the peer has taken. -/
  written : Bytes := []
  /-- How many more bytes the peer takes before writing fails, if there is a limit. -/
  room : Option Nat := none
  /-- Whether flushing succeeds. -/
  flushes : Bool := true
  deriving Repr, DecidableEq, Inhabited

end Channel

/-- A channel to a peer. -/
structure Channel where
  /-- What has arrived and was not received yet. -/
  incoming : List Channel.Arrival := []
  /-- Messages that were sent and not yet taken by the writer. -/
  outgoing : List (List Char) := []
  closed : Bool := false
  cancelled : Bool := false
  reader : Channel.Reader := {}
  writer : Channel.Writer := {}
  deriving Repr, DecidableEq, Inhabited

namespace Channel

def isConnected (c : Channel) : Bool :=
  !c.closed && !c.cancelled

def isBroken (c : Channel) : Bool :=
  c.writer.phase = .finished

/-- Puts a message into the queue of the writer. -/
def send (c : Channel) (message : List Char) : Except Error Channel :=
  if !c.isConnected then .error .disconnected
  else if c.isBroken then .error .writerGone
  else .ok { c with outgoing := c.outgoing ++ [message] }

/-- Takes what has arrived first. When everything has been received, it depends on the reader
whether to wait or to give up. -/
def takeArrived (c : Channel) : Attempt Error (List Char) × Channel :=
  match c.incoming with
  | .text chars :: rest => (.done chars, { c with incoming := rest })
  | .fault failure :: rest => (.failed (.input failure), { c with incoming := rest })
  | [] => (if c.reader.finished then .failed .disconnected else .waiting, c)

/-- Takes what has arrived first, if the channel is connected. -/
def receive (c : Channel) : Attempt Error (List Char) × Channel :=
  if !c.isConnected then (.failed .disconnected, c) else c.takeArrived

/-- What a call that waits sees first when it is disconnected and something has arrived. -/
inductive Sight where
  | disconnection
  | arrival
  deriving Repr, DecidableEq

/-- Goes on with a call of `receive` that has had to wait. The call has found the channel connected
and does not look at that again: it waits for either of two things, and may see the second of them
even if the first has happened too. -/
def resume (c : Channel) (sight : Sight) : Attempt Error (List Char) × Channel :=
  if !c.isConnected && (sight = .disconnection || c.incoming.isEmpty) then
    (.failed .disconnected, c)
  else c.takeArrived

/-- What is seen first in a trial. It depends on how much has arrived, so that both come about. -/
def firstSight (c : Channel) : Sight :=
  if c.incoming.length % 2 = 0 then .disconnection else .arrival

/-- Closes the channel. Nothing that arrived can be received any more. -/
def close (c : Channel) : Channel :=
  { c with closed := true, cancelled := true, incoming := [] }

/-- Cancels the channel, as anybody who holds its token can do. -/
def cancel (c : Channel) : Channel :=
  { c with cancelled := true }

/-- A channel whose arrivals are fixed, that takes every message; after the arrivals it reports the
end of the stream, unless the peer stays silent. -/
def scripted (arrivals : List Arrival) (silent : Bool) : Channel :=
  { incoming := arrivals, reader := { finished := !silent } }

/-- A channel whose reader gets the given deliveries. -/
def ofDeliveries (deliveries : List Delivery) : Channel :=
  { reader := { deliveries } }

/-- A channel whose reader is to get some reads and then the end of the stream. -/
def ofReads (reads : List Bytes) : Channel :=
  ofDeliveries (reads.map .bytes ++ [.endOfStream])

theorem takeArrived_same (c : Channel) : ∃ incoming, c.takeArrived.2 = { c with incoming } := by
  unfold takeArrived
  split
  · exact ⟨_, rfl⟩
  · exact ⟨_, rfl⟩
  · exact ⟨c.incoming, rfl⟩

/-- To receive only uses up what has arrived. -/
theorem receive_same (c : Channel) : ∃ incoming, c.receive.2 = { c with incoming } := by
  unfold receive
  split
  · exact ⟨c.incoming, rfl⟩
  · exact c.takeArrived_same

theorem resume_same (c : Channel) (sight : Sight) :
    ∃ incoming, (c.resume sight).2 = { c with incoming } := by
  unfold resume
  split
  · exact ⟨c.incoming, rfl⟩
  · exact c.takeArrived_same

theorem takeArrived_incoming_lt {c c' : Channel} {chars : List Char}
    (h : c.takeArrived = (.done chars, c')) : c'.incoming.length < c.incoming.length := by
  unfold takeArrived at h
  split at h
  · next heq =>
    cases h
    rw [heq]
    exact Nat.lt_succ_self _
  · cases h
  · split at h <;> cases h

theorem receive_incoming_lt {c c' : Channel} {chars : List Char}
    (h : c.receive = (.done chars, c')) : c'.incoming.length < c.incoming.length := by
  unfold receive at h
  split at h
  · cases h
  · exact takeArrived_incoming_lt h

/-!
## Searches

Receiving from a channel until a text has arrived, in whatever pieces.
-/

def occursIn (text : List Char) : List Char → Bool
  | [] => text.isEmpty
  | c :: rest => text.isPrefixOf (c :: rest) || occursIn text rest

structure Search where
  text : List Char
  /-- The pieces that were received, the last one first. -/
  pieces : List (List Char) := []
  /-- The end of what was received, too short to hold the text. -/
  tail : List Char := []
  found : Bool := false
  /-- Why nothing more can be received. -/
  fault : Option Error := none
  deriving Repr, Inhabited

namespace Search

def start (text : String) : Search :=
  { text := text.toList, found := text = "" }

/-- Whether the search has come to its end. -/
def isOver (s : Search) : Bool :=
  s.found || s.fault.isSome

def received (s : Search) : String :=
  String.ofList s.pieces.reverse.flatten

/-- Receives once, if the search is not over and the channel does not have to wait. -/
def step (s : Search) (c : Channel) : Option (Search × Channel) :=
  if s.isOver then none
  else
    match c.receive with
    | (.done chars, c) =>
      let seen := s.tail ++ chars
      some ({ s with
        pieces := chars :: s.pieces
        tail := seen.drop (seen.length - (s.text.length - 1))
        found := occursIn s.text seen }, c)
    | (.failed e, c) => some ({ s with fault := some e }, c)
    | (.waiting, _) => none

end Search

end Channel

end RLanguageHost
