import RLanguageHost.Channel.Wire
import RLanguageHost.Child.Error
import RLanguageHost.Child.Supervisor
import RLanguageHost.Machine.Turn
import RLanguageHost.Text.Lines

/-!
# Keepers of child processes

A keeper starts processes on a machine, one after another, and stops them: it carries out what its
supervisor decides, passes on the lines of the standard error stream, and holds the channel over the
standard streams until somebody takes it.

The lines go to the handler that was installed when the process was started, and a handler serves
one start. A stop asks the process to end, waits for a while, kills the process if it is still
there, and waits again. The end of a process is reported when its standard error stream has ended,
but no later than a moment after the process. The handler of exits may take its time; who waits for
the exit sees it after the handler has come back.
-/

namespace RLanguageHost.Child

/-- How a process is stopped. -/
inductive StopMode where
  /-- The process is asked first. -/
  | graceful
  | force
  deriving Repr, DecidableEq, Inhabited

/-- What a stop is at. -/
inductive Stopping where
  | idle
  /-- The process has been asked to end. -/
  | asked (deadline : Nat)
  /-- The process has been killed. -/
  | killed (deadline : Nat)
  deriving Repr, DecidableEq, Inhabited

/-- What handlers are given. -/
inductive Notice where
  | line (text : String)
  /-- The exit of a process. -/
  | exited (n : Nat) (exit : Exit)
  deriving Repr, DecidableEq, Inhabited

namespace Notice

def line? : Notice → Option String
  | .line text => some text
  | .exited .. => none

def exit? : Notice → Option Exit
  | .line _ => none
  | .exited _ exit => some exit

/-- Whether the exit of a process is reported. -/
def isExitOf (n : Nat) : Notice → Bool
  | .line _ => false
  | .exited n' _ => n' = n

end Notice

/-- What is given to handlers when the exit of a process is reported. -/
def Watch.told (w : Watch) (n : Nat) (exit : Exit) : List Notice :=
  if w.handled then [.exited n exit] else []

/-- The standard error stream of a process. -/
structure Monitor where
  /-- The pipe, while it is read. -/
  pipe : Option Nat
  reader : Lines.Reader := {}
  /-- Whether a handler gets the lines. -/
  forwards : Bool
  /-- When the watch stops waiting for the stream to end. -/
  deadline : Option Nat := none
  deriving Repr, Inhabited

/-- A keeper. Times are microseconds of the machine. -/
structure Keeper where
  plan : Machine.Plan
  around : Machine.Surroundings
  /-- How long a stop waits. -/
  grace : Nat := 2000000
  supervisor : Supervisor := {}
  /-- The standard error streams in the order of their processes. -/
  monitors : List Monitor := []
  /-- Whether a handler for lines is installed. -/
  handler : Bool := false
  /-- Whether a handler for exits is installed. -/
  exitHandler : Bool := true
  /-- The channel over the standard streams, until it is taken. -/
  kept : Option Wire := none
  stopping : Stopping := .idle
  /-- What the handlers were given and have not come back from. -/
  notices : List Notice := []
  deriving Repr, Inhabited

namespace Keeper

/-- How long the report of an exit waits for the standard error stream. -/
def drainTime : Nat := 200000

def tell (k : Keeper) (event : Supervisor.Event) : Keeper :=
  { k with supervisor := k.supervisor.step event }

def modify (k : Keeper) (n : Nat) (f : Monitor → Monitor) : Keeper :=
  { k with monitors := k.monitors.modify n f }

/-- Whether the present process runs. -/
def isRunning (k : Keeper) : Bool :=
  k.supervisor.state.isRunning

/-- A channel that nobody holds any more. -/
def letGo (m : Machine) (l : Wire) : Machine :=
  let m := (l.reads.map m.stopReading).getD m
  (l.writes.map m.stopWriting).getD m

/-- Sends the present process the signal that kills it, unless it has ended. -/
def signalKill (m : Machine) (k : Keeper) : Machine :=
  match k.supervisor.present? with
  | some w => if w.isOpen then m.deliver w.pid Machine.Signal.kill else m
  | none => m

def kill (m : Machine) (k : Keeper) : Machine × Keeper :=
  (k.signalKill m, k.tell .killAsked)

/-- Starts the process. One that was started before and has not ended is killed. -/
def start (m : Machine) (k : Keeper) : Except Error Unit × Machine × Keeper :=
  if k.isRunning then (.error .alreadyStarted, m, k)
  else
    match m.spawn k.around k.plan with
    | .error failure => (.error (.input failure), m, k)
    | .ok (child, m) =>
      let m := (k.kept.map (letGo m)).getD m
      let m := k.signalKill m
      let k := k.tell (.started child.pid k.exitHandler)
      (.ok (), m, { k with
        kept :=
          if k.plan.piped then some { reads := child.stdout, writes := child.stdin } else none
        monitors := k.monitors ++ [{ pipe := some child.stderr, forwards := k.handler }]
        handler := false })

/-- Takes the channel over the standard streams. -/
def takeChannel (k : Keeper) : Except Error Wire × Keeper :=
  if !k.plan.piped then (.error .detached, k)
  else
    match k.kept with
    | some l => (.ok l, { k with kept := none })
    | none => (.error .notStarted, k)

/-- Stops to read what the present process writes to its standard error stream. -/
def stopMonitor (m : Machine) (k : Keeper) : Machine × Keeper :=
  match k.monitors.getLast? with
  | some o =>
    ((o.pipe.map m.stopReading).getD m,
      k.modify (k.monitors.length - 1) fun o => { o with pipe := none })
  | none => (m, k)

def beginStop (m : Machine) (k : Keeper) (mode : StopMode) : Except Error Unit × Machine × Keeper :=
  match k.supervisor.state.pid? with
  | none => (.error .notStarted, m, k)
  | some pid =>
    let m := (k.kept.map (letGo m)).getD m
    let k := { k with kept := none }
    match mode with
    | .graceful =>
      (.ok (), m.deliver pid Machine.Signal.term, { k with stopping := .asked (m.clock + k.grace) })
    | .force =>
      let (m, k) := k.kill m
      (.ok (), m, { k with stopping := .killed (m.clock + k.grace) })

/-- Kills the process without waiting for its end. -/
def killNow (m : Machine) (k : Keeper) : Machine × Keeper :=
  if !k.isRunning then (m, k)
  else
    let (m, k) := k.kill m
    let (m, k) := k.stopMonitor m
    (m, k.tell .settled)

/-- Ends the keeper: a process that still runs is killed. -/
def drop (m : Machine) (k : Keeper) : Machine × Keeper :=
  let m := (k.kept.map (letGo m)).getD m
  { k with kept := none }.kill m

/-- Passes lines on, if a handler gets them. -/
def pass (k : Keeper) (forwards : Bool) (lines : List Bytes) : Keeper :=
  if forwards then
    { k with notices := k.notices ++ lines.map fun l => .line (String.ofList (Lines.text l)) }
  else k

/-- The next thing to do for the standard error stream of a process. -/
def monitorStep (m : Machine) (k : Keeper) (n : Nat) : Option (Machine × Keeper) := do
  let o ← k.monitors[n]?
  let pipe ← o.pipe
  match m.readPipe pipe Wire.gulp with
  | .data bytes m =>
    let (lines, reader) := o.reader.feed bytes
    some (m, (k.modify n fun o => { o with reader }).pass o.forwards lines)
  | .atEnd =>
    some (m.stopReading pipe,
      (k.modify n fun o => { o with pipe := none }).pass o.forwards o.reader.finish)
  | .blocked => none

/-- The next thing that the watch over a process does. -/
def watchStep (m : Machine) (k : Keeper) (n : Nat) : Option (Machine × Keeper) := do
  let w ← k.supervisor.watch? n
  match w.phase with
  | .waiting | .killing =>
    let (word, m) ← m.reap w.pid
    return (m, (k.modify n fun o => { o with deadline := some (m.clock + drainTime) }).tell
      (.exited n (Exit.ofStatus (some w.pid) word)))
  | .draining exit =>
    let isOver := k.monitors[n]?.all fun o => o.pipe.isNone || o.deadline.any (· ≤ m.clock)
    if isOver then
      some (m, { k.tell (.drained n) with notices := k.notices ++ w.told n exit })
    else none
  | .reported _ =>
    if k.notices.any (·.isExitOf n) then none else some (m, k.tell (.publish n))
  | .published _ => none

def finishStop (m : Machine) (k : Keeper) : Machine × Keeper :=
  let (m, k) := k.stopMonitor m
  (m, { k.tell .settled with stopping := .idle })

def stopStep (m : Machine) (k : Keeper) : Option (Machine × Keeper) :=
  match k.stopping with
  | .idle => none
  | .asked deadline =>
    if k.supervisor.exit?.isSome then some (k.finishStop m)
    else if deadline ≤ m.clock then
      let (m, k) := k.kill m
      some (m, { k with stopping := .killed (m.clock + k.grace) })
    else none
  | .killed deadline =>
    if k.supervisor.exit?.isSome || deadline ≤ m.clock then some (k.finishStop m) else none

/-- The next thing that the channel does. -/
def linkStep (m : Machine) (k : Keeper) : Option (Machine × Keeper) := do
  let l ← k.kept
  let (m, l) ← l.pump m
  return (m, { k with kept := some l })

/-- The next thing that a keeper does, if there is something to do. -/
def react (m : Machine) (k : Keeper) : Option (Machine × Keeper) :=
  (k.linkStep m).or <| ((List.range k.monitors.length).findSome? (monitorStep m k)).or <|
    ((List.range k.supervisor.watches.length).findSome? (watchStep m k)).or (stopStep m k)

/-- The times at which a keeper wakes up of itself. -/
def wakes (k : Keeper) : List Nat :=
  (k.monitors.filterMap fun o => if o.pipe.isSome then o.deadline else none)
    ++ match k.stopping with
      | .idle => []
      | .asked deadline | .killed deadline => [deadline]

/-- What the handlers were given, and the keeper after they have come back. -/
def takeNotices (k : Keeper) : List Notice × Keeper :=
  (k.notices, { k with notices := [] })

end Keeper

end RLanguageHost.Child
