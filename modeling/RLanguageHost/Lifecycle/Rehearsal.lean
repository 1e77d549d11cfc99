import RLanguageHost.Host.Bridge

/-!
# Rehearsals

The life cycle with stand-ins for servers, which start and stop at once. On demand a start is held
until it is released, or fails, and stops fail.
-/

namespace RLanguageHost.Lifecycle

/-- A life cycle with stand-ins for servers. -/
structure Rehearsal where
  state : State
  /-- Whether starts are held. -/
  hold : Bool := false
  /-- Whether starts fail. -/
  failStart : Bool := false
  /-- Whether stops fail. -/
  failStop : Bool := false
  /-- The handlers whose starts are held, the oldest first. -/
  held : List Nat := []

namespace Rehearsal

def startResult (r : Rehearsal) : Except Session.Error Unit :=
  if r.failStart then .error (.startupFailed "factory told to fail") else .ok ()

/-- How the stop of a session under a key ends. -/
def stopResult (r : Rehearsal) (key : ScopeKey) : Except Session.Error Unit :=
  if r.failStop then .error (.stopped key.text) else .ok ()

/-- The number of stops that a handler may still wait for. -/
def stopsLeft : Option Waiting → Nat
  | some (.removal _ _ rest _) => rest.length + 1
  | some (.stop ..) => 1
  | _ => 0

/-- Ends the stops that a handler waits for, as many as `fuel` says. -/
def endStops (r : Rehearsal) (handler : Nat) : (fuel : Nat) → Option Outcome × Rehearsal
  | 0 => (none, r)
  | fuel + 1 =>
    match r.state.waiting? handler with
    | some (.stop key _) | some (.removal key _ _ _) =>
      match r.state.finishStop handler (r.stopResult key) with
      | (some outcome, state) => (some outcome, { r with state })
      | (none, state) => endStops { r with state } handler fuel
    | _ => (none, r)

def endStart (r : Rehearsal) (handler : Nat) : Option Outcome × Rehearsal :=
  let (outcome, state) := r.state.finishStart handler r.startResult
  (outcome, { r with state })

/-- Carries out a job as far as it goes. -/
def perform (r : Rehearsal) (job : State.Job) : Nat × Option Outcome × Rehearsal :=
  match r.state.perform job with
  | (handler, some outcome, state) => (handler, some outcome, { r with state })
  | (handler, none, state) =>
    let r := { r with state }
    match state.waiting? handler with
    | some (.start _) =>
      if r.hold then (handler, none, { r with held := r.held ++ [handler] })
      else (handler, r.endStart handler)
    | waiting => (handler, r.endStops handler (stopsLeft waiting))

/-- Carries out jobs in order, each as far as it goes. -/
def performAll (r : Rehearsal) (jobs : List State.Job) : Rehearsal :=
  jobs.foldl (fun r job => (r.perform job).2.2) r

/-- Lets the oldest held start go on: whether its handler was still waiting, and how it ended. -/
def release (r : Rehearsal) : Bool × Option (Nat × Outcome) × Rehearsal :=
  match r.held with
  | [] => (false, none, r)
  | handler :: held =>
    let r := { r with held }
    match r.state.waiting? handler with
    | none => (false, none, r)
    | some _ =>
      let (outcome, r) := r.endStart handler
      (true, outcome.map (handler, ·), r)

def abandon (r : Rehearsal) (handler : Nat) : Rehearsal :=
  { r with state := r.state.abandonHandler handler }

/-- Gives up all handlers that wait. -/
def abandonAll (r : Rehearsal) : Rehearsal :=
  (r.state.handlers.map (·.1)).foldl abandon r

/-- Stops all sessions: how many could be stopped. -/
def deactivate (r : Rehearsal) : Nat × Rehearsal :=
  let (sessions, state) := r.state.drain
  (if r.failStop then 0 else sessions.length, { r with state })

def dispatch (r : Rehearsal) (event : HostEvent) : Rehearsal :=
  let (workspace, job) := Host.dispatch r.state.workspace event
  { r with state := { r.state with workspace } }.performAll job.toList

/-- How many handlers begin before the host turns to its input again. -/
def turn : Nat := 61

/-- Reads lines to the end of the events. The `waiting` jobs are those that no handler has begun;
after each event some of them begin, the oldest first. -/
def readLines (r : Rehearsal) (waiting : List State.Job) :
    List Bytes → Except Host.Error Unit × Rehearsal
  | [] => (.ok (), r)
  | line :: rest =>
    match Host.readLine line with
    | .unreadable failure => (.error (.input failure), r)
    | .ignored => readLines r waiting rest
    | .event .deactivate => (.ok (), r)
    | .event event =>
      let (workspace, job) := Host.dispatch r.state.workspace event
      let r := { r with state := { r.state with workspace } }
      let waiting := waiting ++ job.toList
      readLines (r.performAll (waiting.take turn)) (waiting.drop turn) rest

/-- Runs the host over its input; `none` stands for a host that is told to stop before it has read
anything. In the end all handlers are given up and all sessions are stopped. -/
def run (r : Rehearsal) (input : Option Bytes) : Except Host.Error Unit × Rehearsal :=
  let (result, r) :=
    match input with
    | none => (Except.ok (), r)
    | some input => r.readLines (Host.activation r.state.workspace) (Lines.all input)
  (result, r.abandonAll.deactivate.2)

end Rehearsal

end RLanguageHost.Lifecycle
