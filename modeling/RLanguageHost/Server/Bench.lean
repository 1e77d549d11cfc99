import RLanguageHost.Channel.Basic
import RLanguageHost.Server.Launch

/-!
# Server benches

A bench is a host that looks after one server, from its launch on: it shows what the server writes
to its standard error stream, keeps the exits that were reported, and talks over the channel once it
is up. A call that waits lets the machine go on; all other calls take no time.
-/

namespace RLanguageHost.Server

structure Bench where
  launch : Launch
  output : Output := {}
  exits : List Exit := []
  search : Option Channel.Search := none
  deriving Inhabited

namespace Bench

def react (m : Machine) (b : Bench) : Option (Machine × Bench) :=
  let searched : Option (Machine × Bench) := do
    let w ← b.launch.wire
    let (s, channel) ← (← b.search).step w.channel
    return (m, { b with
      search := some s, launch := { b.launch with wire := some { w with channel } } })
  let launched : Option (Machine × Bench) := do
    let (m, launch, output, exits) ← b.launch.react m b.output
    return (m, { b with launch, output, exits := b.exits ++ exits })
  searched.or launched

def host : Machine.Host Bench where
  react := react
  wake b := b.launch.keeper.wakes.min?

/-- How long a call without a limit of its own waits. -/
def patience : Nat := 3000000

def begin (m : Machine) (around : Machine.Surroundings) (command : Command) (link : Link) :
    Machine × Bench :=
  let (m, launch, output) := Launch.begin m around command link {}
  (m, { launch, output })

/-- Waits until the channel is up. -/
def bringUp (m : Machine) (b : Bench) (limit : Nat) : Machine × Bench :=
  if b.launch.isUp then (m, b) else host.await (·.launch.isUp) limit m b

def giveUp (m : Machine) (b : Bench) : Machine × Bench :=
  let (m, launch) := b.launch.giveUp m
  (m, { b with launch })

def send (b : Bench) (message : String) : Except Channel.Error Unit × Bench :=
  match b.launch.wire with
  | none => (.error .disconnected, b)
  | some w =>
    match w.channel.send message.toList with
    | .ok channel =>
      (.ok (), { b with launch := { b.launch with wire := some { w with channel } } })
    | .error e => (.error e, b)

def receiveUntil (m : Machine) (b : Bench) (text : String) : Channel.Search × Machine × Bench :=
  let (m, b) := host.await (fun b => b.search.all (·.isOver)) patience m
    { b with search := some (.start text) }
  (b.search.getD (.start text), m, { b with search := none })

def close (b : Bench) : Bench :=
  { b with launch := { b.launch with
    wire := b.launch.wire.map fun w => { w with channel := w.channel.close } } }

def wait (m : Machine) (b : Bench) : Option Exit × Machine × Bench :=
  let (m, b) := host.await (·.launch.keeper.supervisor.exit?.isSome) patience m b
  (b.launch.keeper.supervisor.exit?, m, b)

def stop (m : Machine) (b : Bench) (mode : Child.StopMode) :
    Except Child.Error Unit × Machine × Bench :=
  let (result, m, keeper) := b.launch.keeper.beginStop m mode
  let (m, b) := host.await (·.launch.keeper.stopping = .idle) (2 * keeper.grace + patience) m
    { b with launch := { b.launch with keeper } }
  (result, m, b)

end Bench

end RLanguageHost.Server
