import RLanguageHost.Server.Bench
import RLanguageHost.Session.Server

/-!
# Session benches

A bench is a host that looks after one session and nothing else. A session is there when the channel
to its server has come up, and while a call on it waits the machine goes on.
-/

namespace RLanguageHost.Session

structure Bench where
  session : Server
  output : Output

namespace Bench

/-- The next thing that happens. -/
def react (m : Machine) (b : Bench) : Option (Machine × Bench) := do
  let (m, session, output) ← b.session.react m b.output
  return (m, { session, output })

def host : Machine.Host Bench where
  react := react
  wake b := b.session.wakes.min?

/-- How long a call waits. -/
def patience : Nat := 3000000

/-- Lets machine and host go on until something has happened, but no longer than `patience`. -/
def await (happened : Bench → Bool) (m : Machine) (b : Bench) : Machine × Bench :=
  host.await happened patience m b

def send (b : Bench) (message : Json) : Attempt Error Unit × Bench :=
  let (result, session) := b.session.send message
  (result, { b with session })

/-- Receives as long as messages come that are not complete; `rounds` bounds how often. -/
def receiveIn (m : Machine) (b : Bench) (deadline : Nat) :
    (rounds : Nat) → Attempt Error Json × Machine × Bench
  | 0 => (.waiting, m, { b with session := b.session.leaveReceive })
  | rounds + 1 =>
    match b.session.receive with
    | (.waiting, session) =>
      let b := { b with session }
      let (m, b) := host.await (·.session.hasNews) (deadline - m.clock) m b
      if b.session.hasNews then receiveIn m b deadline rounds
      else (.waiting, m, { b with session := b.session.leaveReceive })
    | (result, session) => (result, m, { b with session })

/-- Receives the next message of the server. -/
def receive (m : Machine) (b : Bench) : Attempt Error Json × Machine × Bench :=
  b.receiveIn m (m.clock + patience) patience

def stop (m : Machine) (b : Bench) : Machine × Bench :=
  let (m, session) := b.session.beginStop m
  let limit := session.shutdownLimit + 2 * session.launch.keeper.grace + patience
  host.await (!·.session.isStopping) limit m { b with session }

/-- Waits until the session does not need to be stopped any more. -/
def waitStopped (m : Machine) (b : Bench) : Bool × Machine × Bench :=
  let (m, b) := b.await (!·.session.needsStop) m
  (!b.session.needsStop, m, b)

/-- Waits until the output shows a line. -/
def waitLine (m : Machine) (b : Bench) (line : String) : Bool × Machine × Bench :=
  let (m, b) := b.await (·.output.lines.contains line) m
  (b.output.lines.contains line, m, b)

def drop (m : Machine) (b : Bench) : Machine × Bench :=
  let (m, session) := b.session.drop m
  (m, { b with session })

end Bench

inductive Creation where
  | created (bench : Bench)
  | failed (error : Error)
  /-- The channel does not come up, and nobody set a limit to it. -/
  | pending

/-- Creates a session: the server is launched, and the session is there when its channel is up. -/
def create (m : Machine) (around : Machine.Surroundings) (scope : Scope) (command : Server.Command)
    (link : Server.Link) (limit : Option Duration) (shutdownLimit : Nat) :
    Creation × Output × Machine :=
  let (m, b) := RLanguageHost.Server.Bench.begin m around command link
  let allowed := (limit.map (·.nanos / 1000)).getD (Bench.patience + 1)
  let (m, b) := b.bringUp m (allowed.min Bench.patience)
  match b.launch.wire with
  | some wire =>
    let session := { Server.ofLaunch scope b.launch wire b.exits with shutdownLimit }
    (.created { session, output := b.output }, b.output, m)
  | none =>
    let (m, b) := b.giveUp m
    match limit with
    | some time =>
      if allowed ≤ Bench.patience then (.failed (.connectTimeout scope.key.text time), b.output, m)
      else (.pending, b.output, m)
    | none => (.pending, b.output, m)

end RLanguageHost.Session
