import RLanguageHost.Channel.Traffic
import RLanguageHost.Frame.Basic

/-!
# Receiving frames

A receiver turns the texts that arrive on a channel into messages, however the frames are cut. It
keeps the text that is not yet a whole frame, and messages that were complete before they were asked
for.

A frame that is wrong stays in the buffer, and so does what follows it: every text that arrives
later reports the same error. Messages before it are still delivered.

A `Reception` is a receiver at work while its channel is. Calls of the receiver and moves of the
channel's reader and writer take turns in any order. Nobody closes or cancels the channel, so a call
that goes on after it had to wait finds what one that begins there would.
-/

namespace RLanguageHost.Frame

/-- What a receiver keeps between calls. -/
structure Receiver where
  /-- The text that has arrived and is no whole frame yet. -/
  buffer : List Char := []
  /-- Messages that were not asked for yet. -/
  queue : List (List Char) := []
  deriving Repr, DecidableEq, Inhabited

namespace Receiver

/-- Takes the frames off a text: the bodies, the text that is left, and the error of the frame that
it starts with, if there is one. -/
def split (text : List Char) : List (List Char) × List Char × Option Error :=
  match _h : parse text with
  | .incomplete => ([], text, none)
  | .bad e => ([], text, some e)
  | .message body rest =>
    let (bodies, left, fault) := split rest
    (body :: bodies, left, fault)
termination_by text.length
decreasing_by exact length_lt_of_parse ‹_›

/-- The receiver after a text has arrived, and the error that shows then. -/
def feed (r : Receiver) (text : List Char) : Option Error × Receiver :=
  let (bodies, left, fault) := split (r.buffer ++ text)
  (fault, { buffer := left, queue := r.queue ++ bodies })

/-- The next message. Messages in the queue are given out even if the channel is disconnected. -/
def receive (r : Receiver) (c : Channel) : Attempt Error (List Char) × Receiver × Channel :=
  match r.queue with
  | message :: rest => (.done message, { r with queue := rest }, c)
  | [] =>
    if !c.isConnected then (.failed .closed, r, c)
    else
      match _h : c.receive with
      | (.waiting, c) => (.waiting, r, c)
      | (.failed e, c) => (.failed (.channel e), r, c)
      | (.done text, c') =>
        match r.feed text with
        | (some e, r) => (.failed e, r, c')
        | (none, r) => receive r c'
termination_by c.incoming.length
decreasing_by exact Channel.receive_incoming_lt ‹_›

/-- Goes on with a call that has had to wait for the channel. If the text that it gets then
completes no message, it looks again whether the channel is connected. -/
def resume (r : Receiver) (c : Channel) (sight : Channel.Sight) :
    Attempt Error (List Char) × Receiver × Channel :=
  match c.resume sight with
  | (.waiting, c) => (.waiting, r, c)
  | (.failed e, c) => (.failed (.channel e), r, c)
  | (.done text, c) =>
    match r.feed text with
    | (some e, r) => (.failed e, r, c)
    | (none, r) => r.receive c

/-- A call that gives a message uses up something that has arrived, or a message of the queue. -/
theorem backlog_lt_of_receive {r r' : Receiver} {c c' : Channel} {message : List Char}
    (h : r.receive c = (.done message, r', c')) :
    Prod.Lex (· < ·) (· < ·) (c'.incoming.length, r'.queue.length)
      (c.incoming.length, r.queue.length) := by
  fun_induction receive r c with
  | case1 r c m rest hq =>
    cases h
    exact .right _ (by simp [hq])
  | case2 => simp at h
  | case3 => simp at h
  | case4 => simp at h
  | case5 => simp at h
  | case6 r c hq hc text c₁ hr r₁ hf ih =>
    have hlt := Channel.receive_incoming_lt hr
    have hle : c'.incoming.length ≤ c₁.incoming.length := by
      rcases (Prod.lex_def ..).mp (ih h) with h | h
      · exact Nat.le_of_lt h
      · exact Nat.le_of_eq h.1
    exact .left _ _ (Nat.lt_of_le_of_lt hle hlt)

end Receiver

def send (c : Channel) (message : List Char) : Except Error Channel :=
  (c.send (frame message)).mapError .channel

/-! ## Receptions -/

/-- A receiver, its channel, and what the calls of the receiver have given. -/
structure Reception where
  channel : Channel
  receiver : Receiver := {}
  results : List (Except Error (List Char)) := []

/-- What can happen next: a move of the channel's reader or writer, or another look at a call. -/
inductive Turn where
  | background (move : Channel.Move)
  | call
  deriving Repr, DecidableEq

namespace Reception

/-- The reception after a look at a call. A call that has to wait gives no result; the next look
goes on with it. -/
def record (s : Reception) :
    Attempt Error (List Char) × Receiver × Channel → Reception
  | (.done message, receiver, channel) =>
    { receiver, channel, results := s.results ++ [.ok message] }
  | (.failed e, receiver, channel) => { receiver, channel, results := s.results ++ [.error e] }
  | (.waiting, receiver, channel) => { s with receiver, channel }

/-- The reception after a turn. A move that cannot be made changes nothing. -/
def turn (s : Reception) : Turn → Reception
  | .background move =>
    if s.channel.enabled move then { s with channel := s.channel.move move } else s
  | .call => s.record (s.receiver.receive s.channel)

def run (s : Reception) (turns : List Turn) : Reception :=
  turns.foldl turn s

/-- A receiver on a channel whose reader is to get some reads and then the end of the stream. -/
def start (reads : List Bytes) : Reception :=
  { channel := .ofReads reads }

end Reception

end RLanguageHost.Frame
