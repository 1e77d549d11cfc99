import RLanguageHost.Machine.Interpreter
import RLanguageHost.Machine.Spawn

/-!
# Turns

The processes of a machine take turns, a step at a time, and every step takes the same short time.
When no process can make a step, the clock goes on to the time at which one wakes up.

A host reacts to what happens on its machine at once, before any process makes its next step.
-/

namespace RLanguageHost.Machine

/-- The time that a step takes, in microseconds. -/
def stepTime : Nat := 5

/-- A shell with a name that writes pieces and then carries out a script. -/
def scriptProgram (name : String) (p : Proc) (environment : List String)
    (pieces : List (Nat × Bytes)) (script : String) : Program :=
  let shell := freshShell .posix name p.pid p.parent p.directory environment
  let read := Shell.Script.ofText .posix 1 script
  .shell { shell with
    frames := pieces.map (fun (stream, bytes) => .write stream bytes 0)
      ++ [.script read.lines read.fault "-c"] }

/-- Runs a command in a process of its own, for some time at most. -/
def watch (m : Machine) (p : Proc) (words environment : List String) (time : Nat)
    (signal : Signal) : Machine :=
  let name := words.head?.getD ""
  let searchPath := (Utility.Words.valueIn environment "PATH").getD defaultSearchPath
  match findImage m p.directory searchPath name words with
  | .error fault =>
    let text := "timeout: failed to run command \x27" ++ name ++
      "\x27: " ++ fault.description ++ "\n"
    m.setProgram p.pid
      (.tool (.print [(2, Shell.rawOf text)] (if fault = .noEntry then 127 else 126)))
  | .ok image =>
    let (pid, m) := m.fork p id
    let m := ((m.proc? pid).map fun child => m.execute child environment image).getD m
    let deadline := if time = 0 then 1000000000000000 else m.clock + time
    m.setProgram p.pid (.tool (.limit pid deadline signal false))

/-- Runs a command by a shell in a process of its own, with an input of its own if one is given and
with its output in a pipe if it is collected. -/
def runCommand (m : Machine) (p : Proc) (command : String) (environment : List String)
    (input : Option Bytes) (collects : Bool) (next : Nat → Option Nat → Tool) : Machine :=
  let (given, m) : Option Nat × Machine :=
    match input with
    | none => (none, m)
    | some bytes =>
      let (pipe, m) := m.makePipe
      (some pipe, m.pour pipe bytes)
  let (taken, m) : Option Nat × Machine :=
    if collects then
      let (pipe, m) := m.makePipe
      (some pipe, m)
    else (none, m)
  let led (q : Proc) : Proc :=
    let q := (given.map fun pipe => q.setStream 0 (some (.source pipe))).getD q
    (taken.map fun pipe => q.setStream 1 (some (.sink pipe))).getD q
  let (pid, m) := m.fork p led
  let m := m.modify pid fun q =>
    { q with program := scriptProgram "/bin/sh" q environment [] command }
  let m := (taken.map fun pipe =>
    m.modify p.pid (·.setStream collectingStream (some (.source pipe)))).getD m
  m.setProgram p.pid (.tool (next pid taken))

/-- One step of a process; none if it has ended or has to wait. -/
def stepProc (m : Machine) (p : Proc) : Option Machine :=
  if p.ended.isSome || p.paused then none
  else
    match p.program with
    | .shell s => stepShell m p s
    | .tool t =>
      match stepTool m p t with
      | .goesOn t m => some (m.setProgram p.pid (.tool t))
      | .ends status m => some (m.finish p.pid (status % 256 * 256))
      | .becomes pieces script environment m =>
        some (m.setProgram p.pid (scriptProgram "sh" p environment pieces script))
      | .runs command environment input collects next m =>
        some (m.runCommand p command environment input collects next)
      | .watches words environment time signal m => some (m.watch p words environment time signal)
      | .broken =>
        let m := m.deliver p.pid Signal.pipe
        some (if (m.proc? p.pid).any (·.ended.isNone) then m.finish p.pid 256 else m)
      | .blocked => none

/-- The step of the process whose turn it is, if any process can make one. -/
def turn (m : Machine) : Option Machine :=
  let later := m.procs.filter (m.current < ·.pid)
  let earlier := m.procs.filter (·.pid ≤ m.current)
  (later ++ earlier).findSome? fun p =>
    (stepProc m p).map fun m => { m with current := p.pid, clock := m.clock + stepTime }

/-- The time until which a program waits at most. -/
def Program.deadline? : Program → Option Nat
  | .tool (.sleep deadline) => some deadline
  | .tool (.limit _ deadline _ false) => some deadline
  | .tool _ => none
  | .shell s =>
    match s.frames with
    | .read request _ :: _ => request.deadline
    | _ => none

def nextWake? (m : Machine) : Option Nat :=
  (m.procs.filterMap fun p =>
    if p.ended.isSome || p.paused then none
    else p.program.deadline?.filter (m.clock < ·)).min?

structure Host (σ : Type) where
  /-- Its next reaction to what has happened, if there is one. -/
  react : Machine → σ → Option (Machine × σ)
  /-- The next time at which it wakes up of itself. -/
  wake : σ → Option Nat

/-- Lets machine and host go on until something has happened, or until a time. -/
def Host.advance {σ : Type} (host : Host σ) (happened : σ → Bool) (deadline : Nat) :
    (fuel : Nat) → Machine → σ → Machine × σ
  | 0, m, h => (m, h)
  | fuel + 1, m, h =>
    match host.react m h with
    | some (m, h) => advance host happened deadline fuel m h
    | none =>
      if happened h || deadline ≤ m.clock then (m, h)
      else
        match m.turn with
        | some m => advance host happened deadline fuel m h
        | none =>
          let times := (m.nextWake?.toList ++ (host.wake h).toList).filter (m.clock < ·)
          let next := times.foldl min deadline
          advance host happened deadline fuel { m with clock := next } h

/-- What reactions bring about, one after the other, going on brings about. -/
theorem Host.advance_induction {σ : Type} {host : Host σ} {R : σ → σ → Prop} (refl : ∀ h, R h h)
    (react : ∀ m h m' h' h'', host.react m h = some (m', h') → R h' h'' → R h h'')
    (happened : σ → Bool) (deadline fuel : Nat) (m : Machine) (h : σ) :
    R h (host.advance happened deadline fuel m h).2 := by
  induction fuel generalizing m h with
  | zero => exact refl h
  | succ fuel ih =>
      rw [advance]
      split
      · next m' h' reacted => exact react m h m' h' _ reacted (ih m' h')
      · split
        · exact refl h
        · split
          · exact ih _ h
          · exact ih _ h

/-- A bound on what can happen in a span of time. -/
def patience (span : Nat) : Nat :=
  2 * span + 1000000

/-- Lets machine and host go on until something has happened, but no longer than some time. -/
def Host.await {σ : Type} (host : Host σ) (happened : σ → Bool) (limit : Nat) (m : Machine)
    (h : σ) : Machine × σ :=
  host.advance happened (m.clock + limit) (patience limit) m h

end RLanguageHost.Machine
