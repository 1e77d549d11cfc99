import RLanguageHost.Machine.Image

/-!
# Processes of the host

How the host starts a process on its machine and talks to it. Whatever can keep a program from being
run shows at the start: a NUL in what the process is given, a directory that is not there, or a
program that is not found or may not be run.

A process gets a pipe for its standard error stream and, unless it is detached, pipes for its
standard input and output. The host holds the other ends.
-/

namespace RLanguageHost.Machine

structure Plan where
  program : String
  arguments : List String := []
  /-- The directory to run in; without one it is that of the host. -/
  directory : Option FilePath := none
  /-- The variables that override the environment, in order. -/
  environment : List (String × String) := []
  /-- Whether the standard input and output are pipes. -/
  piped : Bool := true
  deriving Repr, DecidableEq, Inhabited

/-- Where the host runs: its directory and environment. -/
structure Surroundings where
  directory : FilePath
  environment : List (String × String) := []
  deriving Repr, DecidableEq, Inhabited

/-- A process that was started, with the pipes that the host holds an end of. -/
structure Spawned where
  pid : Nat
  stdin : Option Nat
  stdout : Option Nat
  stderr : Nat
  deriving Repr, DecidableEq, Inhabited

def hasNul (s : String) : Bool :=
  s.contains '\x00'

/-- Variables with other ones in their place. -/
def overridden (inherited : List (String × String)) (overrides : List (String × String)) :
    List (String × String) :=
  overrides.foldl (fun env v => env.filter (·.1 ≠ v.1) ++ [v]) inherited

/-- The entries of an environment in which some variables are overridden. They are in the order of
their names, unless nothing is overridden. -/
def environmentEntries (inherited overrides : List (String × String)) : List String :=
  let all := overridden inherited overrides
  let ordered := if overrides.isEmpty then all else all.mergeSort fun v w => decide (v.1 ≤ w.1)
  ordered.map fun v => v.1 ++ "=" ++ v.2

def startDirectory (m : Machine) (here : FilePath) (directory : Option FilePath) :
    Except Failure Place :=
  match m.tree.locate here (directory.getD here) with
  | .error e => .error e
  | .ok (_, .file ..) => .error (.system .notDirectory)
  | .ok (place, .directory) => .ok place

def spawn (m : Machine) (around : Surroundings) (plan : Plan) :
    Except Failure (Spawned × Machine) :=
  let texts := plan.program :: plan.arguments ++ plan.environment.flatMap fun v => [v.1, v.2]
  if texts.any hasNul || plan.directory.any (·.bytes.contains 0) then .error .nulInData
  else do
    let directory ← startDirectory m around.directory plan.directory
    let raw (s : String) : String := Shell.textOf (bytesOf s)
    let environment := (environmentEntries around.environment plan.environment).map raw
    let searchPath := (Utility.Words.valueIn environment "PATH").getD defaultSearchPath
    let words := (plan.program :: plan.arguments).map raw
    let image ← (findImage m directory searchPath (raw plan.program) words).mapError Failure.system
    let (stderr, m) := m.makePipe
    let (stdin, m) := m.makePipe
    let (stdout, m) := m.makePipe
    let pid := m.nextPid
    let streams : List (Nat × Handle) :=
      if plan.piped then [(0, .source stdin), (1, .sink stdout)] else [(0, .null), (1, .null)]
    let held : List Handle :=
      .source stderr :: if plan.piped then [.sink stdin, .source stdout] else []
    let p : Proc :=
      { pid, parent := hostPid, program := .tool (.print [] 0), directory
        streams := streams ++ [(2, .sink stderr)] }
    let m := { m with
      procs := m.procs ++ [p], nextPid := pid + 1
      host := held ++ m.host }
    return (
      { pid, stdin := if plan.piped then some stdin else none
        stdout := if plan.piped then some stdout else none, stderr },
      m.execute p environment image)

/-- The host lets go of the reading end of a pipe. -/
def stopReading (m : Machine) (pipe : Nat) : Machine :=
  { m with host := m.host.filterMap fun
      | .source p => if p = pipe then none else some (.source p)
      | .connection p q => some (if p = pipe then .sink q else .connection p q)
      | h => some h }

/-- The host lets go of the writing end of a pipe. -/
def stopWriting (m : Machine) (pipe : Nat) : Machine :=
  { m with host := m.host.filterMap fun
      | .sink p => if p = pipe then none else some (.sink p)
      | .connection p q => some (if q = pipe then .source p else .connection p q)
      | h => some h }

/-- The host writes to a pipe, however full it is. -/
def pour (m : Machine) (pipe : Nat) (bytes : Bytes) : Machine :=
  { m with pipes := m.pipes.map fun q => if q.1 = pipe then (pipe, q.2.push bytes) else q }

/-- The host begins to listen on a port of its choice. -/
def listen (m : Machine) : Nat × Machine :=
  let port := 40000 + m.nextNumber
  (port, { m with ports := (port, []) :: m.ports, nextNumber := m.nextNumber + 1 })

/-- The host takes the first connection to a port and stops listening on it. -/
def accept? (m : Machine) (port : Nat) : Option ((Nat × Nat) × Machine) :=
  match m.ports.lookup port with
  | some (first :: _) => some (first, { m with ports := m.ports.filter (·.1 ≠ port) })
  | _ => none

end RLanguageHost.Machine
