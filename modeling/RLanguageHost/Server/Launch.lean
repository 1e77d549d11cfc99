import RLanguageHost.Child.Keeper
import RLanguageHost.Output
import RLanguageHost.Server.Command

/-!
# Launching servers

A launch starts the process of a server and brings up the channel to it. Over standard streams the
channel is there with the process; over a port it is there when the server has connected. When the
process cannot be started, or ends before it connects, the channel never comes up: a launch waits
for ever, and who has not so much time has to give it up.

The output shows that a server was started or not, what it writes to its standard error stream, and
how it ended. It asks for attention if the server could not be started or did not end with success.
-/

namespace RLanguageHost.Server

/-- A server that is being launched, or is up. -/
structure Launch where
  command : Command
  link : Link
  keeper : Child.Keeper
  /-- The port that the server is to connect to. -/
  port : Option Nat := none
  /-- The channel to the server, once it has come up. -/
  wire : Option Wire := none
  deriving Inhabited

def startedLine (pid : Nat) : String :=
  "R Language Server (" ++ toString pid ++ ") started"

/-- The line about a server that could not be started. -/
def failedLine (program : String) (e : Child.Error) : String :=
  "Failed to start R Language Server (" ++ program ++ "): " ++ e.message

/-- The line about a server that has ended. -/
def exitedLine (exit : Exit) : String :=
  "R Language Server (" ++ ((exit.pid.map toString).getD "?") ++ ") exited " ++ exit.describe

namespace Launch

/-- The process that a command asks for. -/
def plan (command : Command) (port : Option Nat) : Machine.Plan where
  program := command.program
  arguments := command.arguments port
  directory := some command.workingDirectory
  environment := command.environment
  piped := port.isNone

def begin (m : Machine) (around : Machine.Surroundings) (command : Command) (link : Link)
    (out : Output) : Machine × Launch × Output :=
  let (port, m) :=
    match link with
    | .stdio => (none, m)
    | .loopback =>
      let (port, m) := m.listen
      (some port, m)
  let keeper : Child.Keeper := { plan := plan command port, around, handler := true }
  match keeper.start m with
  | (.error e, m, keeper) =>
    (m, { command, link, keeper, port }, (out.append (failedLine command.program e)).alert)
  | (.ok (), m, keeper) =>
    let out := out.append (startedLine (keeper.supervisor.state.pid?.getD 0))
    match keeper.takeChannel with
    | (.ok wire, keeper) => (m, { command, link, keeper, port, wire := some wire }, out)
    | (.error _, keeper) => (m, { command, link, keeper, port }, out)

/-- Whether the channel has come up. -/
def isUp (l : Launch) : Bool :=
  l.wire.isSome

/-- The process of the server, while it runs. -/
def pid? (l : Launch) : Option Nat :=
  l.keeper.supervisor.state.pid?

/-- Shows what the handlers of the process were given, and the exits among it. -/
def report (out : Output) (notices : List Child.Notice) : Output × List Exit :=
  notices.foldl (fun (out, exits) n =>
    match n with
    | .line text => (out.append text, exits)
    | .exited _ exit =>
      let out := out.append (exitedLine exit)
      (if exit.isSuccess then out else out.alert, exits ++ [exit])) (out, [])

/-- The connection that the server has opened, if there is one. -/
def acceptStep (m : Machine) (l : Launch) : Option (Machine × Launch) := do
  let port ← l.port
  let ((reads, writes), m) ← m.accept? port
  return (m, { l with wire := some { reads := some reads, writes := some writes } })

/-- The next thing that happens to a launch, if something does: the output is shown, and the exits
that were reported are handed on. -/
def react (m : Machine) (l : Launch) (out : Output) :
    Option (Machine × Launch × Output × List Exit) :=
  let wired : Option (Machine × Launch × Output × List Exit) := do
    let (m, w) ← (← l.wire).pump m
    return (m, { l with wire := some w }, out, [])
  let accepted : Option (Machine × Launch × Output × List Exit) := do
    let (m, l) ← l.acceptStep m
    return (m, l, out, [])
  (wired.or accepted).or <| do
    let (m, keeper) ← l.keeper.react m
    let (notices, keeper) := keeper.takeNotices
    let (out, exits) := report out notices
    return (m, { l with keeper }, out, exits)

/-- Gives up a launch whose channel has not come up: the process is killed and the port is closed.
-/
def giveUp (m : Machine) (l : Launch) : Machine × Launch :=
  let m := { m with ports := m.ports.filter fun q => some q.1 ≠ l.port }
  let (m, keeper) := l.keeper.drop m
  (m, { l with keeper })

/-- The text that tells a launched server apart from others. -/
def debugText (l : Launch) (pid port : Option Nat → String) : String :=
  "LaunchedServer \x7b pid: " ++ pid l.pid? ++ ", strategy: "
    ++ (match l.link with
      | .stdio => "Stdio"
      | .loopback => "Loopback")
    ++ ", port: " ++ port l.port ++ " \x7d"

end Launch

end RLanguageHost.Server
