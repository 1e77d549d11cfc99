/-!
# Supervisors of child processes

A supervisor starts one process after another and says how the present one stands. A watch over each
process waits for its end, then for the rest of what it wrote to the standard error stream, then
reports the exit, and last publishes it, so that who waits for the exit sees it after the report.
An exit says how a process ended: with a code, from a signal, or in a way that is not known.

A watch goes on when its process is no longer the present one. A process that is started makes the
supervisor give up the one before, and a process whose watch is given up is killed.
-/

namespace RLanguageHost

/-- A report on the end of a process. -/
structure Exit where
  pid : Option Nat := none
  code : Option Int := none
  signal : Option Int := none
  deriving Repr, DecidableEq, Inhabited

namespace Exit

/-- The names of signals that messages use; others go by their numbers. -/
def signalNames : List (Int × String) :=
  [(1, "SIGHUP"), (2, "SIGINT"), (3, "SIGQUIT"), (6, "SIGABRT"), (9, "SIGKILL"),
    (11, "SIGSEGV"), (13, "SIGPIPE"), (15, "SIGTERM")]

def signalName (signal : Int) : String :=
  (signalNames.lookup signal).getD (toString signal)

/-- Reads the status word of an ended process: its low seven bits are zero if the process exited,
and then the next byte is the code; otherwise they are the signal, unless all of them are set. -/
def ofStatus (pid : Option Nat) (status : Int) : Exit :=
  let low := status.emod 128
  if low = 0 then { pid, code := some ((status / 256).emod 256) }
  else if low = 127 then { pid }
  else { pid, signal := some low }

/-- Whether the process ended with code zero. -/
def isSuccess (exit : Exit) : Bool :=
  exit.code = some 0

/-- The end of a sentence on an exit. -/
def describe (exit : Exit) : String :=
  match exit.signal, exit.code with
  | some signal, _ => "from signal " ++ signalName signal
  | none, some code => "with exit code " ++ toString code
  | none, none => "with unknown status"

end Exit

end RLanguageHost

namespace RLanguageHost.Child

/-- How the present process stands. -/
inductive State where
  | notStarted
  | running (pid : Nat)
  | stopped
  deriving Repr, DecidableEq, Inhabited

namespace State

/-- The number of the process, while it runs. -/
def pid? : State → Option Nat
  | .running pid => some pid
  | _ => none

def isRunning (s : State) : Bool :=
  s.pid?.isSome

end State

/-- What a watch is at. -/
inductive Phase where
  /-- The process runs. -/
  | waiting
  /-- The process has been killed, and the watch waits for its end. -/
  | killing
  /-- The process has ended, and what it wrote is still to be passed on. -/
  | draining (exit : Exit)
  /-- The exit has been reported. -/
  | reported (exit : Exit)
  /-- The exit can be seen by who waits for it. -/
  | published (exit : Exit)
  deriving Repr, DecidableEq, Inhabited

/-- A watch over a process. -/
structure Watch where
  pid : Nat
  /-- Whether a handler gets the exit. -/
  handled : Bool := true
  phase : Phase := .waiting
  deriving Repr, DecidableEq, Inhabited

namespace Watch

/-- Kills the process, unless it has ended. -/
def kill (w : Watch) : Watch :=
  match w.phase with
  | .waiting => { w with phase := .killing }
  | _ => w

/-- Whether the process may still run. -/
def isOpen (w : Watch) : Bool :=
  match w.phase with
  | .waiting | .killing => true
  | _ => false

def exit? (w : Watch) : Option Exit :=
  match w.phase with
  | .published exit => some exit
  | _ => none

end Watch

structure Supervisor where
  state : State := .notStarted
  /-- The watches in the order of their processes, that over the present process last. -/
  watches : List Watch := []
  deriving Repr, DecidableEq, Inhabited

namespace Supervisor

/-- What moves a supervisor on. Processes go by the order in which they were started, for their
numbers come back. -/
inductive Event where
  /-- A process was started, whose exit a handler gets or not. -/
  | started (pid : Nat) (handled : Bool)
  /-- The present process is to be killed. -/
  | killAsked
  /-- A process has ended. -/
  | exited (n : Nat) (exit : Exit)
  /-- What a process wrote has been passed on, or has taken too long. -/
  | drained (n : Nat)
  /-- The exit of a process, which has been reported, is published. -/
  | publish (n : Nat)
  /-- A call that stops the present process comes to its end. -/
  | settled
  deriving Repr, DecidableEq

/-- Changes the watch over a process. -/
def modify (s : Supervisor) (n : Nat) (f : Watch → Watch) : Supervisor :=
  { s with watches := s.watches.modify n f }

def watch? (s : Supervisor) (n : Nat) : Option Watch :=
  s.watches[n]?

def present? (s : Supervisor) : Option Watch :=
  s.watches.getLast?

/-- The published exit of the present process. -/
def exit? (s : Supervisor) : Option Exit :=
  s.present?.bind Watch.exit?

/-- The supervisor after an event. An event that does not fit what a watch is at changes nothing. -/
def step (s : Supervisor) : Event → Supervisor
  | .started pid handled =>
    { state := .running pid, watches := s.watches.map Watch.kill ++ [{ pid, handled }] }
  | .killAsked => s.modify (s.watches.length - 1) Watch.kill
  | .exited n exit =>
    if (s.watch? n).any Watch.isOpen then
      { s.modify n fun w => { w with phase := .draining exit } with state := .stopped }
    else s
  | .drained n =>
    match (s.watch? n).map Watch.phase with
    | some (.draining exit) => s.modify n fun w => { w with phase := .reported exit }
    | _ => s
  | .publish n =>
    match (s.watch? n).map Watch.phase with
    | some (.reported exit) => s.modify n fun w => { w with phase := .published exit }
    | _ => s
  | .settled => { s with state := .stopped }

end Supervisor

end RLanguageHost.Child
