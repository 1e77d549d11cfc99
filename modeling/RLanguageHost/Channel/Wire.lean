import RLanguageHost.Channel.Traffic
import RLanguageHost.Machine.Spawn

/-!
# Wires

A wire is a channel whose peer is a process of the machine: what the process writes is delivered to
the reader, and what the writer has written goes into the pipe that the process reads. Whoever of
the two ends lets go of its pipe.
-/

namespace RLanguageHost

/-- A channel with the pipes that it goes over. -/
structure Wire where
  channel : Channel := {}
  /-- The pipe that the reader reads, while the host holds it. -/
  reads : Option Nat
  /-- The pipe that the writer writes, while the host holds it. -/
  writes : Option Nat
  /-- How many of the bytes that the writer has written are in the pipe. -/
  passed : Nat := 0
  deriving Repr, Inhabited

namespace Wire

/-- The most bytes that are delivered at once. -/
def gulp : Nat := 1048576

/-- The next thing to do for the reader. -/
def pumpIn (m : Machine) (w : Wire) : Option (Machine × Wire) := do
  let pipe ← w.reads
  if w.channel.reader.finished then some (m.stopReading pipe, { w with reads := none })
  else
    match m.readPipe pipe gulp with
    | .data bytes m => some (m, { w with channel := w.channel.deliver (Channel.blocks bytes) })
    | .atEnd =>
      some (m.stopReading pipe, { w with
        channel := w.channel.deliver [.endOfStream], reads := none })
    | .blocked => none

/-- The next thing to do for the writer. -/
def pumpOut (m : Machine) (w : Wire) : Option (Machine × Wire) := do
  let pipe ← w.writes
  let written := w.channel.writer.written
  if w.passed < written.length then
    some (m.pour pipe (written.drop w.passed), { w with passed := written.length })
  else if w.channel.isBroken then some (m.stopWriting pipe, { w with writes := none })
  else none

/-- The channel, with what its writer meets: a pipe that nobody reads takes no more bytes. -/
def withPeer (m : Machine) (w : Wire) : Channel :=
  let taken := w.writes.any fun pipe => m.isHeld (Machine.Handle.reads pipe)
  { w.channel with
    writer := { w.channel.writer with room := if taken then none else some 0 } }

/-- The next thing to do for a wire, if there is something to do. -/
def pump (m : Machine) (w : Wire) : Option (Machine × Wire) :=
  if w.channel.nextMove?.isSome then some (m, { w with channel := (w.withPeer m).settle })
  else (pumpOut m w).or (pumpIn m w)

end Wire

end RLanguageHost
