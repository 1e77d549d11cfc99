import RLanguageHost.Client
import RLanguageHost.Scope.Basic
import RLanguageHost.Server.Launch
import RLanguageHost.Session.Error
import RLanguageHost.Session.Status
import RLanguageHost.Text.Quoted

/-!
# Sessions with servers

A session is one server and the client that talks to it. It is running once the channel is up, and
it is over when the server has ended or somebody has stopped it.

A call that receives holds the client until a message has arrived, and whoever else needs the client
waits for it.

Who stops a session first carries out the stop, and nobody else. The server gets some time for the
handshake that shuts it down; then the channel is cancelled and the process, if it still runs, is
stopped. A session that is dropped without that has its process killed.

An `Act` is anything that any of these parties may do, in whatever order they do it.
-/

namespace RLanguageHost.Session

/-- What a stop of a session is at. -/
inductive StopPhase where
  | idle
  /-- Somebody else holds the client; the handshake is given up at a time. -/
  | queued (deadline : Nat)
  /-- The server was asked to shut down, and the answer is to be looked for until a time. -/
  | asked (request : String) (deadline : Nat)
  /-- The handshake waits for the answer. -/
  | handshake (request : String) (deadline : Nat)
  /-- The process is being stopped. -/
  | process
  | done
  deriving Repr, DecidableEq, Inhabited

/-- Whether a stop has the client, for the handshake. -/
def StopPhase.isAsking : StopPhase → Bool
  | .asked .. | .handshake .. => true
  | .idle | .queued _ | .process | .done => false

/-- A session. Times are microseconds of the machine. -/
structure Server where
  scope : Scope
  launch : Server.Launch
  /-- The wire of the channel that the client uses. -/
  wire : Wire
  /-- The client; its channel is that of the wire. -/
  talk : Client
  /-- Whether a call that receives holds the client. -/
  receiving : Bool := false
  status : Status := .starting
  stopping : StopPhase := .idle
  /-- How long the handshake may take. -/
  shutdownLimit : Nat := 3000000
  /-- The process that the session was created with. -/
  pid : Option Nat
  port : Option Nat

namespace Server

/-- A session with a server whose channel has come up. -/
def ofLaunch (scope : Scope) (launch : RLanguageHost.Server.Launch) (wire : Wire)
    (exits : List Exit) : Server :=
  let status : Status := if exits.isEmpty then .starting else .stopped
  { scope, wire, launch := { launch with wire := none }
    talk := { channel := wire.channel }
    status := status.write (.transition .starting .running)
    pid := launch.pid?, port := launch.port }

def needsStop (s : Server) : Bool :=
  s.status.needsStop

/-- The client, with the channel as it stands. -/
def client (s : Server) : Client :=
  { s.talk with channel := s.wire.channel }

def withClient (s : Server) (c : Client) : Server :=
  { s with talk := c, wire := { s.wire with channel := c.channel } }

def cancel (s : Server) : Server :=
  { s with wire := { s.wire with channel := s.wire.channel.cancel } }

def send (s : Server) (message : Json) : Attempt Error Unit × Server :=
  if !s.needsStop then (.failed (.stopped s.scope.key.text), s)
  else if s.receiving then (.waiting, s)
  else
    match s.client.send message with
    | .error e => (.failed (.client e), s)
    | .ok c => (.done (), s.withClient c)

/-- Takes the next message of the server, for the call that holds the client. A call that has had to
wait goes on from there. -/
def receive (s : Server) : Attempt Error Json × Server :=
  match if s.receiving then s.client.resume s.wire.channel.firstSight else s.client.receive with
  | (.waiting, c) => (.waiting, { s.withClient c with receiving := true })
  | (a, c) => (a.mapError .client, { s.withClient c with receiving := false })

/-- The call that receives is given up. -/
def leaveReceive (s : Server) : Server :=
  { s with receiving := false }

/-- The server has ended. -/
def noteExit (s : Server) (_ : Exit) : Server :=
  { s with status := s.status.write (.set .stopped) }.cancel

/-- Stops the process after the handshake, whatever came of it. -/
def stopProcess (m : Machine) (s : Server) : Machine × Server :=
  let s := s.cancel
  if s.launch.keeper.isRunning then
    let (_, m, keeper) := s.launch.keeper.beginStop m .graceful
    (m, { s with launch := { s.launch with keeper }, stopping := .process })
  else (m, { s with status := s.status.write (.set .stopped), stopping := .done })

/-- Asks the server to shut down, for a stop that has until a time. -/
def shakeHands (m : Machine) (s : Server) (deadline : Nat) : Machine × Server :=
  if !s.client.isConnected then (s.withClient s.client.close).stopProcess m
  else
    match s.client.sendRequest Client.shutdownMethod none with
    | (_, .error _, c) => (s.withClient c).stopProcess m
    | (request, .ok (), c) => (m, { s.withClient c with stopping := .asked request deadline })

def afterLook (m : Machine) (s : Server) (request : String) (deadline : Nat) :
    Attempt Client.Error Unit × Client → Machine × Server
  | (.waiting, c) => (m, { s.withClient c with stopping := .handshake request deadline })
  | (.failed _, c) => (s.withClient c).stopProcess m
  | (.done (), c) => (s.withClient c.close).stopProcess m

/-- Begins to stop the session, unless that has happened before. -/
def beginStop (m : Machine) (s : Server) : Machine × Server :=
  if !s.needsStop then (m, s)
  else
    let s := { s with status := s.status.write .beginStop }
    let deadline := m.clock + s.shutdownLimit
    if s.receiving then (m, { s with stopping := .queued deadline })
    else s.shakeHands m deadline

/-- Whether the client has something to look at. -/
def hasNews (s : Server) : Bool :=
  !s.wire.channel.incoming.isEmpty || !s.talk.receiver.queue.isEmpty
    || s.wire.channel.reader.finished || !s.wire.channel.isConnected

def stopStep (m : Machine) (s : Server) : Option (Machine × Server) :=
  match s.stopping with
  | .queued deadline =>
    if !s.receiving then some (s.shakeHands m deadline)
    else if deadline ≤ m.clock then some (s.stopProcess m)
    else none
  | .asked request deadline =>
    some (s.afterLook m request deadline (s.client.finishShutdown request))
  | .handshake request deadline =>
    if s.hasNews then
      some (s.afterLook m request deadline
        (s.client.resumeShutdown s.wire.channel.firstSight request))
    else if deadline ≤ m.clock then some (s.stopProcess m)
    else none
  | .process =>
    if s.launch.keeper.stopping = .idle then
      some (m, { s with status := s.status.write (.set .stopped), stopping := .done })
    else none
  | .idle | .done => none

/-- Whether a stop that was begun is still going on. -/
def isStopping (s : Server) : Bool :=
  s.stopping ≠ .idle && s.stopping ≠ .done

/-- The next thing that happens to a session, if something does. -/
def react (m : Machine) (s : Server) (out : Output) : Option (Machine × Server × Output) :=
  let wired : Option (Machine × Server × Output) := do
    let (m, wire) ← s.wire.pump m
    return (m, { s with wire }, out)
  let launched : Option (Machine × Server × Output) := do
    let (m, launch, out, exits) ← s.launch.react m out
    return (m, exits.foldl noteExit { s with launch }, out)
  (wired.or launched).or <| do
    let (m, s) ← s.stopStep m
    return (m, s, out)

/-- The times at which a session wakes up of itself. -/
def wakes (s : Server) : List Nat :=
  s.launch.keeper.wakes ++
    match s.stopping with
    | .queued deadline | .asked _ deadline | .handshake _ deadline => [deadline]
    | _ => []

/-- Drops the session: its channel is cancelled and its process killed. -/
def drop (m : Machine) (s : Server) : Machine × Server :=
  let s := s.cancel
  let (m, keeper) := s.launch.keeper.killNow m
  (m, { s with launch := { s.launch with keeper } })

/-- The text that tells a session apart from others. -/
def debugText (s : Server) (pid : Option Nat → String) : String :=
  "ServerSession \x7b key: ScopeKey(" ++ Text.quote s.scope.key.text ++ "), pid: " ++ pid s.pid
    ++ ", strategy: " ++ (match s.launch.link with
      | .stdio => "Stdio"
      | .loopback => "Loopback")
    ++ ", status: " ++ (match s.status with
      | .starting => "Starting"
      | .running => "Running"
      | .stopping => "Stopping"
      | .stopped => "Stopped") ++ " \x7d"

/-! ## What anybody may do -/

/-- A session whose process was started and that nobody has called running yet. -/
def launching (scope : Scope) (launch : RLanguageHost.Server.Launch) (wire : Wire)
    (shutdownLimit : Nat) : Server :=
  { ofLaunch scope launch wire [] with status := .starting, shutdownLimit }

/-- What anybody may do to a session. -/
inductive Act where
  /-- The session is called running. -/
  | launched
  | exited (exit : Exit)
  /-- Somebody calls for a stop. -/
  | stop (m : Machine)
  /-- The next thing happens to the session. -/
  | reacts (m : Machine) (out : Output)
  | send (message : Json)
  | receive
  | leaveReceive
  | cancelled
  | dropped (m : Machine)

def act (s : Server) : Act → Server
  | .launched => { s with status := s.status.write (.transition .starting .running) }
  | .exited exit => s.noteExit exit
  | .stop m => (s.beginStop m).2
  | .reacts m out => ((s.react m out).map (·.2.1)).getD s
  | .send message => (s.send message).2
  | .receive => s.receive.2
  | .leaveReceive => s.leaveReceive
  | .cancelled => s.cancel
  | .dropped m => (s.drop m).2

def acts (s : Server) (acts : List Act) : Server :=
  acts.foldl act s

end Server

end RLanguageHost.Session
