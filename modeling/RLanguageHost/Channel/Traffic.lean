import RLanguageHost.Channel.Basic

/-!
# Traffic in the background

A channel's reader and writer work by moves. The reader decodes what it reads and passes on whole
characters only; the writer takes one message at a time, writes it and flushes it. Either of them
may see a cancellation wherever it waits, and then ends. A fault of the peer's stream ends the one
that meets it, and nothing else.

`settle` makes moves until none is left. A writer that could take a message or see a cancellation
may do either; there it goes by the messages that are queued, so that both come about. What is left
in the queue when it sees the cancellation is not written.

A `Ledger` is a channel with the messages that it has accepted, from the first call to whatever ends
it, and an `Act` is anything that happens meanwhile.
-/

namespace RLanguageHost.Channel

/-- The most bytes that one read takes. -/
def readLimit : Nat := 4096

/-- The deliveries that bytes written by the peer at once amount to: blocks of at most `readLimit`
bytes. -/
def blocks (bs : Bytes) : List Delivery :=
  if _h : bs = [] then []
  else .bytes (bs.take readLimit) :: blocks (bs.drop readLimit)
termination_by bs.length
decreasing_by
  have : 0 < bs.length := List.length_pos_iff.mpr ‹_›
  simp only [List.length_drop, readLimit]
  omega

/-- A move of the reader or the writer. -/
inductive Move where
  /-- The reader reads what is delivered next. -/
  | read
  /-- The reader sees the cancellation. -/
  | stopReading
  /-- The writer takes the next message. -/
  | take
  /-- The writer writes as much as the peer takes at once. -/
  | write
  /-- The writer flushes what it has written. -/
  | flush
  /-- The writer sees the cancellation. -/
  | stopWriting
  deriving Repr, DecidableEq

def enabled (c : Channel) : Move → Bool
  | .read => !c.reader.finished && !c.reader.deliveries.isEmpty
  | .stopReading => !c.reader.finished && c.cancelled
  | .take => c.writer.phase = .idle && !c.outgoing.isEmpty
  | .write =>
    match c.writer.phase with
    | .writing _ => true
    | _ => false
  | .flush => c.writer.phase = .flushing
  | .stopWriting => c.writer.phase = .idle && c.cancelled

/-- The reader after reading what is delivered next, and the texts that it passes on. At the end of
the stream it looks once more for text in the bytes that it holds; what is held then is lost. -/
def Reader.read (r : Reader) : List (List Char) × Reader :=
  match r.deliveries with
  | [] => ([], r)
  | .bytes block :: rest =>
    let (texts, held) := Utf8.drain (r.held ++ block)
    (texts, { r with deliveries := rest, held })
  | .endOfStream :: rest =>
    match Utf8.next r.held with
    | some (text, held) => ([text], { deliveries := rest, held, finished := true })
    | none => ([], { r with deliveries := rest, finished := true })
  | .fault _ :: rest => ([], { r with deliveries := rest, finished := true })

/-- The writer after one attempt to write the rest of a message. -/
def Writer.write (w : Writer) : Writer :=
  match w.phase with
  | .writing rest =>
    if rest = [] then { w with phase := .flushing }
    else
      match w.room with
      | none => { w with written := w.written ++ rest, phase := .writing [] }
      | some 0 => { w with phase := .finished }
      | some room =>
        { w with
          written := w.written ++ rest.take room
          phase := .writing (rest.drop room)
          room := some (room - (rest.take room).length) }
  | _ => w

def move (c : Channel) : Move → Channel
  | .read =>
    let (texts, reader) := c.reader.read
    { c with reader, incoming := if c.closed then [] else c.incoming ++ texts.map .text }
  | .stopReading => { c with reader := { c.reader with finished := true } }
  | .take =>
    match c.outgoing with
    | [] => c
    | message :: rest =>
      { c with outgoing := rest
               writer := { c.writer with phase := .writing (Utf8.encode message) } }
  | .write => { c with writer := c.writer.write }
  | .flush =>
    { c with writer := { c.writer with phase := if c.writer.flushes then .idle else .finished } }
  | .stopWriting => { c with writer := { c.writer with phase := .finished } }

/-- The moves, the one to prefer first. The writer takes a message out of an even number, and out of
an odd number only if there is no cancellation to see. -/
def preference (c : Channel) : List Move :=
  if c.outgoing.length % 2 = 0 then [.write, .flush, .take, .stopWriting, .stopReading, .read]
  else [.write, .flush, .stopWriting, .take, .stopReading, .read]

def nextMove? (c : Channel) : Option Move :=
  c.preference.find? c.enabled

/-- The channel after at most so many moves. -/
def run : (fuel : Nat) → Channel → Channel
  | 0, c => c
  | fuel + 1, c =>
    match c.nextMove? with
    | none => c
    | some m => run fuel (c.move m)

/-- A bound on the moves that can follow. A message takes five at most: it is taken, written, found
to be refused or written, flushed, and the writer ends. -/
def movesLeft (c : Channel) : Nat :=
  c.reader.deliveries.length + 6 * c.outgoing.length + 10

/-- The channel when reader and writer have done what they can. -/
def settle (c : Channel) : Channel :=
  run c.movesLeft c

def deliver (c : Channel) (deliveries : List Delivery) : Channel :=
  { c with reader := { c.reader with deliveries := c.reader.deliveries ++ deliveries } }

/-! ## From the first message to the last -/

/-- What can happen to a channel. -/
inductive Act where
  | send (message : List Char)
  | receive
  | close
  /-- Somebody who holds the token cancels the channel. -/
  | cancel
  /-- Nobody holds the channel any more. -/
  | drop
  | delivered (deliveries : List Delivery)
  /-- The peer takes so many bytes from now on, if there is a limit, and can be flushed or not. -/
  | peer (room : Option Nat) (flushes : Bool)
  /-- A move of the reader or the writer. -/
  | background (move : Move)

/-- Whether the channel is closed, cancelled or dropped. -/
def Act.disconnects : Act → Bool
  | .close | .cancel | .drop => true
  | _ => false

structure Ledger where
  channel : Channel := {}
  accepted : List (List Char) := []

namespace Ledger

/-- The ledger after an act. A move that cannot be made changes nothing. -/
def act (s : Ledger) : Act → Ledger
  | .send message =>
    match s.channel.send message with
    | .ok channel => { channel, accepted := s.accepted ++ [message] }
    | .error _ => s
  | .receive => { s with channel := s.channel.receive.2 }
  | .close | .drop => { s with channel := s.channel.close }
  | .cancel => { s with channel := s.channel.cancel }
  | .delivered deliveries => { s with channel := s.channel.deliver deliveries }
  | .peer room flushes =>
    { s with channel := { s.channel with writer := { s.channel.writer with room, flushes } } }
  | .background move =>
    if s.channel.enabled move then { s with channel := s.channel.move move } else s

def run (s : Ledger) (acts : List Act) : Ledger :=
  acts.foldl act s

def written (s : Ledger) : Bytes :=
  s.channel.writer.written

def owed (s : Ledger) : Bytes :=
  s.accepted.flatMap Utf8.encode

end Ledger

end RLanguageHost.Channel
