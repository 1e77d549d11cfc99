import RLanguageHost.Lifecycle.State

/-!
# Deactivations among handlers

A deactivation takes all sessions out of the registry and gives each of them to a task of its own.
After that it shares nothing with the handlers: its tasks call the stops in any order and between
any two parts of handlers, and the deactivation counts those that end well until no task is left.
One that is given up before stays where it stands.

`Control` puts handlers and deactivations side by side and records which stops are called.
-/

namespace RLanguageHost.Lifecycle

structure Deactivation where
  /-- What it took out of the registry. -/
  sessions : List Nat
  /-- The sessions whose tasks have not begun. -/
  waiting : List Nat
  /-- The sessions whose stops were called and have not ended. -/
  stopping : List Nat := []
  /-- How the other tasks ended, in that order; nothing is known of one that broke down. -/
  ended : List (Nat × Option (Except Session.Error Unit)) := []
  /-- How many of them have been looked at. -/
  joined : Nat := 0
  /-- How many of these stopped their session. -/
  stopped : Nat := 0
  answer : Option Nat := none

namespace Deactivation

/-- The end of a task that stopped its session. -/
def succeeded (ending : Nat × Option (Except Session.Error Unit)) : Bool :=
  ending.2.any (·.isOk)

def ofSessions (sessions : List Nat) : Deactivation :=
  { sessions, waiting := sessions }

/-- The task of a session begins. -/
def call (d : Deactivation) (session : Nat) : Deactivation :=
  { d with waiting := d.waiting.erase session, stopping := d.stopping ++ [session] }

/-- The task of a session ends. -/
def finish (d : Deactivation) (session : Nat) (result : Option (Except Session.Error Unit)) :
    Deactivation :=
  if session ∈ d.stopping then
    { d with stopping := d.stopping.erase session, ended := d.ended ++ [(session, result)] }
  else d

/-- The deactivation looks at the next task that ended, or answers if no task is left. -/
def join (d : Deactivation) : Deactivation :=
  match d.ended[d.joined]? with
  | some ending =>
    { d with
      joined := d.joined + 1
      stopped := if succeeded ending then d.stopped + 1 else d.stopped }
  | none =>
    if d.waiting = [] ∧ d.stopping = [] then { d with answer := some d.stopped } else d

end Deactivation

/-- The sessions whose stop a handler calls on an event. -/
def State.stopCalls (s : State) : State.Event → List Nat
  | .job (.openDocument d) => (openDocument s.view s.registry d).1.session?.toList
  | .job (.closeDocument d) => (closeDocument s.view s.registry d).1.session?.toList
  | .job (.removeFolders folders) => (removeFolders s.registry [] folders).1.session?.toList
  | .stopEnded handler _ =>
    match s.waiting? handler with
    | some (.removal key _ rest stopped) =>
      (finishRemoval s.registry key rest stopped).1.session?.toList
    | _ => []
  | _ => []

/-- Handlers and deactivations at work on one registry. -/
structure Control where
  state : State
  deactivations : List Deactivation := []
  /-- The sessions whose stop was called, in the order of the calls. -/
  stops : List Nat := []

namespace Control

/-- Anything that moves handlers or deactivations on. -/
inductive Move where
  /-- Deactivations begin here with the event of that name. -/
  | event (e : State.Event)
  | stopCalled (deactivation session : Nat)
  | stopEnded (deactivation session : Nat) (result : Option (Except Session.Error Unit))
  | joined (deactivation : Nat)

def move (c : Control) : Move → Control
  | .event .deactivated =>
    let (sessions, registry) := c.state.registry.drain
    { c with
      state := { c.state with registry }
      deactivations := c.deactivations ++ [.ofSessions (sessions.map (·.2))] }
  | .event e => { c with state := c.state.step e, stops := c.stops ++ c.state.stopCalls e }
  | .stopCalled deactivation session =>
    match c.deactivations[deactivation]? with
    | none => c
    | some d =>
      if session ∈ d.waiting then
        { state := c.state.modify session State.beginStop
          deactivations := c.deactivations.modify deactivation (·.call session)
          stops := c.stops ++ [session] }
      else c
  | .stopEnded deactivation session result =>
    { c with deactivations := c.deactivations.modify deactivation (·.finish session result) }
  | .joined deactivation =>
    { c with deactivations := c.deactivations.modify deactivation (·.join) }

def run (c : Control) (moves : List Move) : Control :=
  moves.foldl move c

end Control

end RLanguageHost.Lifecycle
