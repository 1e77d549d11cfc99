import RLanguageHost.Host.Bridge
import RLanguageHost.Log.Directive
import RLanguageHost.Session.Server

/-!
# Services

A service carries out the life cycle with servers on a machine. What a handler waits for is the
start of a server, which is over when its channel has come up or took too long, or the stop of a
session.

At the end of the events all handlers are given up: a server that was being started is killed, and
so is one that was being stopped. All other sessions are stopped, and the service waits for that.
-/

namespace RLanguageHost.Host

structure Setup where
  settings : Settings
  /-- Finds the program to run. -/
  finder : Settings → String
  around : Machine.Surroundings
  /-- The value of `LANG` that servers inherit. -/
  inherited : Option String := none
  /-- How long a server may take to connect. -/
  connectLimit : Option Duration := none

/-- A server that a handler waits for. Times are microseconds of the machine. -/
structure Startup where
  handler : Nat
  scope : Scope
  launch : Server.Launch
  exits : List Exit := []
  deadline : Option Nat

/-- Something that went to the output, and the span within which it did. -/
structure Remark where
  event : OutputEvent
  span : Option Log.Span
  deriving Repr, DecidableEq, Inhabited

/-- The life cycle with its servers. -/
structure Service where
  setup : Setup
  state : Lifecycle.State
  startups : List Startup := []
  /-- The sessions, in the order of the fleet. -/
  sessions : List Session.Server := []
  remarks : List Remark := []

namespace Service

/-- The span of a job's handler, for the jobs in which servers are started. -/
def spanOf? : Lifecycle.State.Job → Option Log.Span
  | .openDocument d => some {
      target := "r_lsp_launcher::controller", name := "did_open"
      fields := [("uri", d.uri.text), ("language", d.language)] }
  | .closeDocument _ | .removeFolders _ => none

/-- Keeps what went to the output. -/
def note (s : Service) (span : Option Log.Span) (out : Output) : Service :=
  { s with remarks := s.remarks ++ out.events.map fun event => { event, span } }

/-- The service when it has looked which sessions have ended. -/
def survey (s : Service) : Service :=
  { s with state := s.sessions.zipIdx.foldl (fun state x =>
      if x.1.needsStop then state else state.crash x.2) s.state }

def refuse (s : Service) (handler : Nat) (e : Session.Error) : Service :=
  { s with state := (s.state.finishStart handler (.error e)).2 }

/-- The channel of a server has come up. -/
def enroll (s : Service) (u : Startup) (wire : Wire) : Service :=
  { s with
    state := (s.state.finishStart u.handler (.ok ())).2
    sessions := s.sessions ++ [Session.Server.ofLaunch u.scope u.launch wire u.exits] }.survey

/-- Starts the server that a handler waits for. -/
def start (m : Machine) (s : Service) (span : Option Log.Span) (handler : Nat) (scope : Scope) :
    Machine × Service :=
  let setup := s.setup
  match Server.commandFor setup.finder setup.settings scope.workingDirectory setup.inherited with
  | .error e => (m, s.refuse handler (.settings e))
  | .ok (command, link) =>
    let (m, launch, out) := Server.Launch.begin m setup.around command link {}
    let deadline := setup.connectLimit.map fun d => m.clock + d.nanos / 1000
    let u : Startup := { handler, scope, launch, deadline }
    let s := s.note span out
    match launch.wire with
    | some wire => (m, s.enroll u wire)
    | none => (m, { s with startups := s.startups ++ [u] })

/-- Changes a session together with the machine. -/
def onSession (m : Machine) (s : Service) (n : Nat)
    (f : Machine → Session.Server → Machine × Session.Server) : Machine × Service :=
  match s.sessions[n]? with
  | none => (m, s)
  | some x =>
    let (m, x) := f m x
    (m, { s with sessions := s.sessions.set n x })

/-- Begins what a handler has come to wait for, within its span. -/
def attend (m : Machine) (s : Service) (span : Option Log.Span) (handler : Nat) :
    Machine × Service :=
  match s.state.waiting? handler with
  | some (.start scope) => s.start m span handler scope
  | some (.stop _ n) | some (.removal _ n _ _) => s.onSession m n Session.Server.beginStop
  | none => (m, s)

/-- Carries out a job as far as it goes. -/
def perform (m : Machine) (s : Service) (job : Lifecycle.State.Job) : Machine × Service :=
  let (handler, _, state) := s.state.perform job
  { s with state }.attend m (spanOf? job) handler

/-- Gives up the server that a handler waits for. -/
def giveUp (m : Machine) (s : Service) (u : Startup) : Machine × Service :=
  ((u.launch.giveUp m).1, { s with startups := s.startups.filter (·.handler ≠ u.handler) })

/-- The next thing that happens to a server that is being started. -/
def startupStep (m : Machine) (s : Service) (u : Startup) : Option (Machine × Service) :=
  match u.launch.wire with
  | some wire =>
    some (m, { s with startups := s.startups.filter (·.handler ≠ u.handler) }.enroll u wire)
  | none =>
    if u.deadline.any (· ≤ m.clock) then
      let (m, s) := s.giveUp m u
      some (m, s.refuse u.handler
        (.connectTimeout u.scope.key.text (s.setup.connectLimit.getD ⟨0⟩)))
    else do
      let (m, launch, out, exits) ← u.launch.react m {}
      let next := { u with launch, exits := u.exits ++ exits }
      let startups := s.startups.map fun (o : Startup) => if o.handler = u.handler then next else o
      return (m, { s with startups }.note none out)

/-- The next thing that happens to a session. -/
def sessionStep (m : Machine) (s : Service) (x : Session.Server × Nat) :
    Option (Machine × Service) := do
  let (m, next, out) ← x.1.react m {}
  return (m, ({ s with sessions := s.sessions.set x.2 next }.note none out).survey)

/-- Ends the stop that a handler waits for, if the session has been stopped. -/
def stopStep (m : Machine) (s : Service) (h : Nat × Lifecycle.Waiting) :
    Option (Machine × Service) :=
  match h.2 with
  | .start _ => none
  | .stop _ n | .removal _ n _ _ =>
    if (s.sessions[n]?).any (·.isStopping) then none
    else some ({ s with state := (s.state.finishStop h.1 (.ok ())).2 }.attend m none h.1)

/-- The next thing that happens, if something does. -/
def react (m : Machine) (s : Service) : Option (Machine × Service) :=
  (s.startups.findSome? (s.startupStep m)).or <|
    (s.sessions.zipIdx.findSome? (s.sessionStep m)).or
      (s.state.handlers.findSome? (s.stopStep m))

/-- The times at which a service wakes up of itself. -/
def wakes (s : Service) : List Nat :=
  s.startups.flatMap (fun u => u.launch.keeper.wakes ++ u.deadline.toList)
    ++ s.sessions.flatMap (·.wakes)

def host : Machine.Host Service where
  react := react
  wake s := s.wakes.min?

/-- Lets happen what takes no time. -/
def settle (m : Machine) (s : Service) : Machine × Service :=
  host.await (fun _ => true) 0 m s

/-- Carries out an event, and lets happen what comes of it at once. -/
def heed (m : Machine) (s : Service) (event : HostEvent) : Machine × Service :=
  let (workspace, job) := dispatch s.state.workspace event
  let s := { s with state := { s.state with workspace } }
  let (m, s) := (job.map (s.perform m)).getD (m, s)
  s.settle m

def readLines (m : Machine) (s : Service) : List Bytes → Except Error Unit × Machine × Service
  | [] => (.ok (), m, s)
  | line :: rest =>
    match readLine line with
    | .unreadable failure => (.error (.input failure), m, s)
    | .ignored => readLines m s rest
    | .event .deactivate => (.ok (), m, s)
    | .event event =>
      let (m, s) := s.heed m event
      readLines m s rest

/-- Gives up a handler, and the server or session that it is about. -/
def abandon (m : Machine) (s : Service) (h : Nat × Lifecycle.Waiting) : Machine × Service :=
  let s := { s with state := s.state.abandonHandler h.1 }
  match h.2 with
  | .start _ =>
    match s.startups.find? (·.handler = h.1) with
    | some u => s.giveUp m u
    | none => (m, s)
  | .stop _ n | .removal _ n _ _ => s.onSession m n Session.Server.drop

/-- How long the sessions may take to stop at the end. -/
def endLimit : Nat := 60000000

/-- Gives up all handlers and stops all sessions. -/
def finish (m : Machine) (s : Service) : Machine × Service :=
  let (m, s) := s.state.handlers.foldl (fun (m, s) h => s.abandon m h) (m, s)
  let (sessions, state) := s.state.drain
  let (m, s) := sessions.foldl (fun (m, s) e => s.onSession m e.2 Session.Server.beginStop)
    (m, { s with state })
  host.await (fun s => sessions.all fun e => !(s.sessions[e.2]?).any (·.isStopping)) endLimit m s

def run (m : Machine) (s : Service) (input : Bytes) : Except Error Unit × Machine × Service :=
  let (result, m, s) := s.readLines m (Lines.all input)
  (result, s.finish m)

end Service

end RLanguageHost.Host
