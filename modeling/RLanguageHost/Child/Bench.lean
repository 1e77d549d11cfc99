import RLanguageHost.Channel.Basic
import RLanguageHost.Child.Keeper

/-!
# Benches

A bench is a host that looks after one process and nothing else: it keeps what the handlers are
given and holds the channel once it is taken. A call that waits lets the machine go on; all other
calls take no time.

An `Act` is one of these calls or something that goes on by itself. Each act has its own machine,
which leaves open when a process ends, which number a process gets, and how much time passes.
-/

namespace RLanguageHost.Child

structure Bench where
  keeper : Keeper
  /-- The channel that was taken. -/
  wire : Option Wire := none
  /-- What the handlers have been given, in order. -/
  heard : List Notice := []
  search : Option Channel.Search := none
  deriving Inhabited

namespace Bench

def lines (b : Bench) : List String :=
  b.heard.filterMap Notice.line?

def exits (b : Bench) : List Exit :=
  b.heard.filterMap Notice.exit?

def keep (b : Bench) : Bench :=
  let (notices, keeper) := b.keeper.takeNotices
  { b with keeper, heard := b.heard ++ notices }

def react (m : Machine) (b : Bench) : Option (Machine × Bench) :=
  let wired : Option (Machine × Bench) := do
    let (m, w) ← (← b.wire).pump m
    return (m, { b with wire := some w })
  let searched : Option (Machine × Bench) := do
    let w ← b.wire
    let (s, channel) ← (← b.search).step w.channel
    return (m, { b with search := some s, wire := some { w with channel } })
  (wired.or searched).or <| do
    let (m, keeper) ← b.keeper.react m
    return (m, { b with keeper }.keep)

def host : Machine.Host Bench where
  react := react
  wake b := b.keeper.wakes.min?

/-- Milliseconds in the time of a machine. -/
def millis (n : Nat) : Nat :=
  n * 1000

/-- How long a call without a limit of its own waits. -/
def patience : Nat := millis 3000

def start (m : Machine) (b : Bench) : Except Error Unit × Machine × Bench :=
  let (result, m, keeper) := b.keeper.start m
  (result, m, { b with keeper })

def stop (m : Machine) (b : Bench) (mode : StopMode) : Except Error Unit × Machine × Bench :=
  let (result, m, keeper) := b.keeper.beginStop m mode
  let limit := 2 * keeper.grace + patience
  let (m, b) := host.await (·.keeper.stopping = .idle) limit m { b with keeper }
  (result, m, b)

/-- Kills the process without waiting for its end. -/
def killNow (m : Machine) (b : Bench) : Machine × Bench :=
  let (m, keeper) := b.keeper.killNow m
  (m, { b with keeper })

def wait (m : Machine) (b : Bench) (limit : Nat) : Option Exit × Machine × Bench :=
  if b.keeper.supervisor.watches.isEmpty then (none, m, b)
  else
    let (m, b) := host.await (·.keeper.supervisor.exit?.isSome) limit m b
    (b.keeper.supervisor.exit?, m, b)

/-- Waits until so many lines have been passed on. -/
def waitLines (m : Machine) (b : Bench) (count : Nat) : Bool × Machine × Bench :=
  let (m, b) := host.await (count ≤ ·.lines.length) patience m b
  (decide (count ≤ b.lines.length), m, b)

def sleep (m : Machine) (b : Bench) (time : Nat) : Machine × Bench :=
  host.await (fun _ => false) time m b

/-- Takes the channel over the standard streams. One that was taken before is let go. -/
def takeChannel (m : Machine) (b : Bench) : Except Error Unit × Machine × Bench :=
  match b.keeper.takeChannel with
  | (.ok w, keeper) =>
    (.ok (), (b.wire.map (Keeper.letGo m)).getD m, { b with keeper, wire := some w })
  | (.error e, keeper) => (.error e, m, { b with keeper })

def send (b : Bench) (w : Wire) (message : String) : Except Channel.Error Unit × Bench :=
  match w.channel.send message.toList with
  | .ok channel => (.ok (), { b with wire := some { w with channel } })
  | .error e => (.error e, b)

def receiveUntil (m : Machine) (b : Bench) (text : String) : Channel.Search × Machine × Bench :=
  let (m, b) := host.await (fun b => b.search.all (·.isOver)) patience m
    { b with search := some (.start text) }
  (b.search.getD (.start text), m, { b with search := none })

def close (b : Bench) (w : Wire) : Bench :=
  { b with wire := some { w with channel := w.channel.close } }

end Bench

/-! ## Acts -/

/-- What can be done with a bench and what goes on by itself, on whatever machine. -/
inductive Act where
  /-- A handler for exits is installed. -/
  | install
  | start (m : Machine)
  /-- A stop begins. -/
  | stop (m : Machine) (mode : StopMode)
  | killNow (m : Machine)
  | drop (m : Machine)
  | takeChannel
  /-- The channel goes on. -/
  | link (m : Machine)
  /-- A standard error stream is read. -/
  | monitor (m : Machine) (n : Nat)
  /-- A watch goes on. -/
  | watch (m : Machine) (n : Nat)
  /-- A stop goes on. -/
  | stopping (m : Machine)
  /-- A handler comes back from something it was given. -/
  | finish (i : Nat)
  /-- A call waits for the exit. -/
  | wait (m : Machine) (limit : Nat)

namespace Bench

def fresh (plan : Machine.Plan) (around : Machine.Surroundings) (grace : Nat)
    (handler exitHandler : Bool) : Bench :=
  { keeper := { plan, around, grace, handler, exitHandler } }

def move (b : Bench) (next : Option (Machine × Keeper)) : Bench :=
  match next with
  | some (_, keeper) => { b with keeper }
  | none => b

def act (b : Bench) : Act → Bench
  | .install => { b with keeper := { b.keeper with exitHandler := true } }
  | .start m => (b.start m).2.2
  | .stop m mode => { b with keeper := (b.keeper.beginStop m mode).2.2 }
  | .killNow m => (b.killNow m).2
  | .drop m => { b with keeper := (b.keeper.drop m).2 }
  | .takeChannel => { b with keeper := b.keeper.takeChannel.2 }
  | .link m => b.move (b.keeper.linkStep m)
  | .monitor m n => b.move (b.keeper.monitorStep m n)
  | .watch m n => b.move (b.keeper.watchStep m n)
  | .stopping m => b.move (b.keeper.stopStep m)
  | .finish i =>
    { b with
      keeper := { b.keeper with notices := b.keeper.notices.eraseIdx i }
      heard := b.heard ++ b.keeper.notices[i]?.toList }
  | .wait m limit => (b.wait m limit).2.2

def run (b : Bench) (acts : List Act) : Bench :=
  acts.foldl act b

end Bench

namespace Act

/-- Whether an act is a call; other acts go on by themselves. -/
def isCall : Act → Bool
  | .link _ | .monitor .. | .watch .. | .stopping _ | .finish _ => false
  | _ => true

/-- Whether an act is a call that waits, in which other acts go on. -/
def waits : Act → Bool
  | .wait .. => true
  | _ => false

end Act

end RLanguageHost.Child
