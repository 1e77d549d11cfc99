import RLanguageHost.Host.Bridge

/-!
# The course of a host

A host has its open documents served and reads events, until the input ends or cannot be read,
until an event tells it to deactivate, or until it is cancelled. Then it gives up its handlers. When
none is left it takes all sessions out of the registry, and it returns when these have stopped.

A `Course` is a host on its way, and a `Turn` is anything that may happen next. Handlers begin and
go on in any order and at any time, starts and stops end when and how they like or never, and a
handler that is given up may still have a turn before it is gone; so turns in some order stand for
any schedule. A turn that cannot come where the host stands changes nothing.

A host that takes one event at a time lets a handler finish before it reads on. Its turns are those
of a `Lifecycle.State`: it reads a line while no handler waits, the start or stop that a handler
waits for ends, well or badly, or a session dies.
-/

namespace RLanguageHost

namespace Host

/-- How far a host has come. -/
inductive Phase where
  | reading
  /-- It reads no more and gives up its handlers. -/
  | leaving (result : Except Error Unit)
  /-- It waits for the sessions to stop that it took out of the registry last. -/
  | stopping (result : Except Error Unit) (sessions : List Nat)
  | returned (result : Except Error Unit)

namespace Phase

/-- Whether all sessions have been taken out of the registry. -/
def isOver : Phase → Bool
  | .reading | .leaving _ => false
  | .stopping .. | .returned _ => true

/-- The sessions that the host itself waits for to stop. -/
def sessions : Phase → List Nat
  | .stopping _ sessions => sessions
  | .reading | .leaving _ | .returned _ => []

end Phase

/-- A host on its way. -/
structure Course where
  state : Lifecycle.State
  /-- The lines that were not read yet. -/
  input : List Bytes
  /-- What the handlers will do that have not begun. -/
  jobs : List Lifecycle.State.Job
  phase : Phase := .reading
  /-- The sessions that were taken out of the registry. -/
  taken : List Nat := []
  /-- The sessions whose stop has ended, well or badly. -/
  ended : List Nat := []
  /-- The sessions whose stop was cut off. -/
  cut : List Nat := []

/-- What may happen next to a host. -/
inductive Turn where
  /-- The host reads the next line, or the end of its input. -/
  | read
  | inputFailed (failure : Failure)
  | cancelled
  /-- One of the handlers that have not begun does. -/
  | begun (index : Nat)
  | startEnded (handler : Nat) (result : Except Session.Error Unit)
  | stopEnded (handler : Nat) (result : Except Session.Error Unit)
  | crashed (session : Nat)
  /-- A handler that waits is given up. -/
  | givenUp (handler : Nat)
  /-- A handler that has not begun is given up. -/
  | dropped (index : Nat)
  /-- The host finds that no handler is left. -/
  | emptied
  /-- A session has stopped that the host waits for, well or badly. -/
  | sessionStopped (session : Nat)
  | returned

namespace Course

/-- A host that starts. Handlers that others have begun are not its own. -/
def start (s : Lifecycle.State) (input : Bytes) : Course where
  state := { s with handlers := [] }
  input := Lines.all input
  jobs := activation s.workspace

def advance (c : Course) (e : Lifecycle.State.Event) : Course :=
  { c with
    state := c.state.step e
    taken := c.taken ++ c.state.takenBy e
    ended := c.ended ++ c.state.endedBy e
    cut := c.cut ++ c.state.cutBy e }

/-- The host reads no more. -/
def leave (c : Course) (result : Except Error Unit) : Course :=
  { c with phase := .leaving result }

def readLine (c : Course) (line : Bytes) : Course :=
  match Host.readLine line with
  | .unreadable failure => c.leave (.error (.input failure))
  | .ignored => c
  | .event .deactivate => c.leave (.ok ())
  | .event event =>
    let (workspace, job) := dispatch c.state.workspace event
    { c.advance (.workspaceChanged workspace) with jobs := c.jobs ++ job.toList }

def reading (c next : Course) : Course :=
  match c.phase with
  | .reading => next
  | _ => c

/-- What a host does while it gives up its handlers. -/
def leaving (c : Course) (next : Except Error Unit → Course) : Course :=
  match c.phase with
  | .leaving result => next result
  | _ => c

/-- What a host does while it waits for sessions to stop. -/
def stopping (c : Course) (next : Except Error Unit → List Nat → Course) : Course :=
  match c.phase with
  | .stopping result sessions => next result sessions
  | _ => c

def turn (c : Course) : Turn → Course
  | .read =>
    c.reading <|
      match c.input with
      | [] => c.leave (.ok ())
      | line :: rest => { c with input := rest }.readLine line
  | .inputFailed failure => c.reading (c.leave (.error (.input failure)))
  | .cancelled => c.reading (c.leave (.ok ()))
  | .begun index =>
    match c.jobs[index]? with
    | some job => { c with jobs := c.jobs.eraseIdx index }.advance (.job job)
    | none => c
  | .startEnded handler result => c.advance (.startEnded handler result)
  | .stopEnded handler result => c.advance (.stopEnded handler result)
  | .crashed session => c.advance (.crashed session)
  | .givenUp handler => c.leaving fun _ => c.advance (.abandoned handler)
  | .dropped index => c.leaving fun _ => { c with jobs := c.jobs.eraseIdx index }
  | .emptied =>
    c.leaving fun result =>
      if c.state.handlers = [] ∧ c.jobs = [] then
        { c.advance .deactivated with phase := .stopping result c.state.stored }
      else c
  | .sessionStopped session =>
    c.stopping fun result sessions =>
      if session ∈ sessions then
        { c with
          phase := .stopping result (sessions.erase session)
          ended := c.ended ++ [session] }
      else c
  | .returned =>
    c.stopping fun result sessions =>
      if sessions = [] then { c with phase := .returned result } else c

def run (c : Course) (turns : List Turn) : Course :=
  turns.foldl turn c

end Course

end Host

/-! ## One event at a time -/

namespace Lifecycle.State

/-- What happens next to a host that takes one event at a time. -/
inductive Turn where
  | line (line : Bytes)
  | startEnded (handler : Nat) (result : Except Session.Error Unit)
  | stopEnded (handler : Nat) (result : Except Session.Error Unit)
  | crashed (session : Nat)

/-- What comes of something that the editor did: the workspace changes, and a handler begins. -/
def eventsOf (s : State) (e : HostEvent) : List Event :=
  .workspaceChanged (Host.dispatch s.workspace e).1 ::
    (Host.dispatch s.workspace e).2.toList.map .job

/-- The state after a turn. No line is read while a handler waits. -/
def turn (s : State) : Turn → State
  | .line line =>
    match s.handlers, Host.readLine line with
    | [], .event e => s.run (s.eventsOf e)
    | _, _ => s
  | .startEnded handler result => s.step (.startEnded handler result)
  | .stopEnded handler result => s.step (.stopEnded handler result)
  | .crashed session => s.step (.crashed session)

def turns (s : State) (turns : List Turn) : State :=
  turns.foldl turn s

end Lifecycle.State

end RLanguageHost
