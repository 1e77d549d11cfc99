import RLanguageHost.Lifecycle.Handler

/-!
# The life cycle of sessions

The state of the host between the parts of its handlers: the workspace, the registry, the handlers
that wait, and every session that was ever started. Sessions and handlers are numbered in the order
in which they came up.

An event is anything that moves the state on: something the editor did, the end of a start or stop
that a handler waits for, a handler that is given up, or a server that dies. Events that concern no
waiting handler and no session change nothing. The workspace belongs to the editor and may change
between any two parts of handlers.
-/

namespace RLanguageHost.Lifecycle

/-- A session that was started. -/
structure Member where
  scope : Scope
  /-- Whether it still needs to be stopped. -/
  live : Bool := true
  /-- How often it was stopped while it needed to be. -/
  stops : Nat := 0
  deriving Repr, DecidableEq, Inhabited

/-- The state of the host between the parts of its handlers. -/
structure State where
  home : FilePath
  workspace : Workspace := {}
  registry : Registry := {}
  fleet : List Member := []
  /-- The handlers that wait, by their numbers. -/
  handlers : List (Nat × Waiting) := []
  nextHandler : Nat := 0
  /-- The keys for which a start was attempted. -/
  attempts : List ScopeKey := []
  deriving Repr

namespace State

/-- Whether a session still needs to be stopped. -/
def isLive (s : State) (session : Nat) : Bool :=
  (s.fleet[session]?).any (·.live)

def view (s : State) : View :=
  { home := s.home, workspace := s.workspace, live := s.isLive }

def modify (s : State) (session : Nat) (f : Member → Member) : State :=
  { s with fleet := s.fleet.modify session f }

/-- A session that is being stopped. -/
def beginStop (m : Member) : Member :=
  if m.live then { m with live := false, stops := m.stops + 1 } else m

/-- Records how a part of a handler ended. A handler that waits for a stop has begun it. -/
def record (s : State) (handler : Nat) (progress : Progress) (registry : Registry) :
    Option Outcome × State :=
  match progress with
  | .finished outcome => (some outcome, { s with registry })
  | .suspended waiting =>
    let s := { s with registry, handlers := s.handlers ++ [(handler, waiting)] }
    match waiting with
    | .start scope => (none, { s with attempts := s.attempts ++ [scope.key] })
    | .stop _ session | .removal _ session _ _ => (none, s.modify session beginStop)

/-- What the editor did, as handlers see it. -/
inductive Job where
  | openDocument (d : Document)
  | closeDocument (d : Document)
  | removeFolders (folders : List Folder)
  deriving Repr, DecidableEq

/-- Runs the first part of a new handler. -/
def perform (s : State) (job : Job) : Nat × Option Outcome × State :=
  let handler := s.nextHandler
  let (progress, registry) :=
    match job with
    | .openDocument d => Lifecycle.openDocument s.view s.registry d
    | .closeDocument d => Lifecycle.closeDocument s.view s.registry d
    | .removeFolders folders => Lifecycle.removeFolders s.registry [] folders
  let (outcome, s) := { s with nextHandler := handler + 1 }.record handler progress registry
  (handler, outcome, s)

def waiting? (s : State) (handler : Nat) : Option Waiting :=
  s.handlers.lookup handler

def dropHandler (s : State) (handler : Nat) : State :=
  { s with handlers := s.handlers.filter (·.1 ≠ handler) }

/-- The start that a handler waits for has ended. -/
def finishStart (s : State) (handler : Nat) (result : Except Session.Error Unit) :
    Option Outcome × State :=
  match s.waiting? handler with
  | some (.start scope) =>
    let s := s.dropHandler handler
    match result with
    | .ok () =>
      let (outcome, registry) := finishOpen s.registry scope.key (.ok s.fleet.length)
      (some outcome, { s with registry, fleet := s.fleet ++ [{ scope }] })
    | .error e =>
      let (outcome, registry) := finishOpen s.registry scope.key (.error e)
      (some outcome, { s with registry })
  | _ => (none, s)

/-- The stop that a handler waits for has ended. -/
def finishStop (s : State) (handler : Nat) (result : Except Session.Error Unit) :
    Option Outcome × State :=
  match s.waiting? handler with
  | some (.stop key _) => (some (finishClose key result), s.dropHandler handler)
  | some (.removal key _ rest stopped) =>
    let (progress, registry) := finishRemoval s.registry key rest stopped
    (s.dropHandler handler).record handler progress registry
  | _ => (none, s)

def abandonHandler (s : State) (handler : Nat) : State :=
  match s.waiting? handler with
  | some waiting => { s.dropHandler handler with registry := abandon s.registry waiting }
  | none => s

/-- A server died. -/
def crash (s : State) (session : Nat) : State :=
  s.modify session fun m => { m with live := false }

/-- Takes all sessions out of the registry and begins to stop them. -/
def drain (s : State) : List (ScopeKey × Nat) × State :=
  let (sessions, registry) := s.registry.drain
  (sessions, sessions.foldl (fun s entry => s.modify entry.2 beginStop) { s with registry })

/-- The session that serves a document: that of its own scope, else any whose selector claims it. -/
def sessionFor? (s : State) (d : Document) : Option Nat :=
  let own := (s.workspace.resolve s.home d).bind fun scope => s.registry.get? scope.key
  if own.any s.isLive then own
  else
    (s.registry.sessions.find? fun entry =>
      (s.fleet[entry.2]?).any fun m => m.live && m.scope.selector.matches d).map (·.2)

/-- Anything that moves the state on. -/
inductive Event where
  | job (job : Job)
  | startEnded (handler : Nat) (result : Except Session.Error Unit)
  | stopEnded (handler : Nat) (result : Except Session.Error Unit)
  | abandoned (handler : Nat)
  | crashed (session : Nat)
  | deactivated
  | workspaceChanged (workspace : Workspace)

def step (s : State) : Event → State
  | .job job => (s.perform job).2.2
  | .startEnded handler result => (s.finishStart handler result).2
  | .stopEnded handler result => (s.finishStop handler result).2
  | .abandoned handler => s.abandonHandler handler
  | .crashed session => s.crash session
  | .deactivated => s.drain.2
  | .workspaceChanged workspace => { s with workspace }

def run (s : State) (events : List Event) : State :=
  events.foldl step s

/-! ## Sessions that are taken out -/

/-- The sessions in the registry. -/
def stored (s : State) : List Nat :=
  s.registry.sessions.map (·.2)

/-- The sessions that handlers wait for to stop. -/
def stopping (s : State) : List Nat :=
  s.handlers.flatMap (·.2.session?.toList)

/-- The session that a handler waits for to stop, if there is one. -/
def stopOf (s : State) (handler : Nat) : List Nat :=
  ((s.waiting? handler).bind (·.session?)).toList

/-- The sessions that an event takes out of the registry. The start of a session takes out none,
though it may put it in the place of another one. -/
def takenBy (s : State) : Event → List Nat
  | .startEnded .. => []
  | e => s.stored.filter (· ∉ (s.step e).stored)

/-- The sessions whose stop an event ends, well or badly. -/
def endedBy (s : State) : Event → List Nat
  | .stopEnded handler _ => s.stopOf handler
  | _ => []

/-- The sessions whose stop an event cuts off. -/
def cutBy (s : State) : Event → List Nat
  | .abandoned handler => s.stopOf handler
  | _ => []

end State

end RLanguageHost.Lifecycle
