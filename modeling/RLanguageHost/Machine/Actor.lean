import RLanguageHost.Machine.Redirection

/-!
# Shells in their processes

A shell with its process and its machine, while it takes a step. What it has to write goes through a
frame, because a write may have to wait; messages about faults are written that way too.
-/

namespace RLanguageHost.Machine

open Shell (Frame)

/-- A shell in its process, while it takes a step. -/
structure Actor where
  m : Machine
  p : Proc
  s : Shell.State
  /-- Whether another program has taken the place of the shell. -/
  replaced : Bool := false
  /-- What has to happen before the step can be taken. -/
  waits : Option Shell.Pending := none
  /-- Whether faults of the current command end the small shell. -/
  isSpecial : Bool := false
  deriving Inhabited

namespace Actor

/-- One of two things, by the dialect of the shell. -/
def choose {α : Type} (a : Actor) (posix bash : α) : α :=
  a.s.dialect.choose posix bash

def done (a : Actor) (status : Nat) : Actor :=
  { a with s := { a.s with status, pipelineStatuses := [status] } }

/-- Something is to be done next. -/
def push (a : Actor) (frame : Frame) : Actor :=
  { a with s := a.s.push frame }

def withFrames (a : Actor) (frames : List Frame) : Actor :=
  { a with s := { a.s with frames } }

def withOptions (a : Actor) (options : Shell.Options) : Actor :=
  { a with s := { a.s with options } }

/-- The command writes text to a stream and is then done with a status. -/
def say (a : Actor) (stream : Nat) (text : String) (status : Nat) : Actor :=
  a.push (.write stream (Shell.rawOf text) status)

/-- The command writes text and is done. -/
def print (a : Actor) (text : String) : Actor :=
  a.say 1 text 0

/-- The command reports a fault; the text starts with its name. -/
def complain (a : Actor) (line : Nat) (text : String) (status : Nat) : Actor :=
  a.say 2 (a.s.lead line ++ text ++ "\n") status

/-- The shell itself reports a fault. -/
def report (a : Actor) (line : Nat) (text : String) (status : Nat) : Actor :=
  a.say 2 (a.s.ownLead line ++ text ++ "\n") status

/-- What is left to do when the shell is to end: streams are led back first. -/
def ending (frames : List Frame) (status : Nat) : List Frame :=
  (frames.filter fun f => match f with | .restore _ => true | _ => false) ++ [.exit status]

/-- The shell has nothing more to do than to end. -/
def leaveShell (a : Actor) (status : Nat) : Actor :=
  a.withFrames (ending a.s.frames status)

/-- The command reports a fault that ends the shell. -/
def fail (a : Actor) (line : Nat) (text : String) (status : Nat) : Actor :=
  (a.leaveShell status).complain line text status

/-- The command reports a fault that ends only the small shell, and this if it is special. -/
def refuse (a : Actor) (line : Nat) (text : String) (status : Nat) : Actor :=
  match a.s.dialect, a.isSpecial with
  | .posix, true => a.fail line text status
  | _, _ => a.complain line text status

/-- What is left to do when the rest of a line is dropped: streams, variables and parameters are
brought back. -/
def afterLine : List Frame → List Frame
  | [] => []
  | f :: rest =>
    match f with
    | .script .. | .input .. | .leaveText .. => f :: rest
    | .restore _ | .revert _ | .leave .. => f :: afterLine rest
    | _ => afterLine rest

/-- The shell cannot go on with a line, or at all. -/
def stop (a : Actor) (line : Nat) (x : Shell.Stop) : Actor :=
  match x.waits with
  | some pending => { a with waits := some pending }
  | none =>
    let ends := x.ends || a.s.options.stopsOnError || (a.s.isSubshell && a.s.dialect = .bash)
    (if ends then a.leaveShell x.status else a.withFrames (afterLine a.s.frames)).report line x.text
      x.status

/-- A command that cannot go on: it fails, and with it the small shell. -/
def stopCommand (a : Actor) (line : Nat) (name : String) (x : Shell.Stop) : Actor :=
  match x.waits, a.s.dialect with
  | some pending, _ => { a with waits := some pending }
  | none, .posix => a.fail line (name ++ ": " ++ x.text) 2
  | none, .bash => a.complain line x.text 1

/-- The rest of the line is dropped, with a report. -/
def dropLine (a : Actor) (line : Nat) (text : String) : Actor :=
  a.stop line { text, status := 1, ends := false }

/-- Writes text at once, as far as there is room for it. -/
def note (a : Actor) (stream : Nat) (text : String) : Actor :=
  match a.m.write (a.p.stream stream) (Shell.rawOf text) with
  | .wrote _ m => { a with m }
  | _ => a

/-- Carries out a script whose first line has some number. Without commands its status is zero. -/
def perform (a : Actor) (firstLine : Nat) (origin script : String) : Actor :=
  let read := Shell.Script.ofText a.s.dialect firstLine script
  let a := if read.lines.isEmpty && read.fault.isNone then a.done 0 else a
  a.push (.script read.lines read.fault origin)

/-- What is left to do when loops are left: the frames from the loop on, and streams to lead back.
-/
def leaveLoops : (loops : Nat) → List Frame → Option (List Frame × List Frame)
  | _, [] => none
  | loops, f :: rest =>
    match f with
    | .again .. | .each .. | .tested .. | .counted .. | .counting .. =>
      if loops ≤ 1 then some ([], f :: rest) else leaveLoops (loops - 1) rest
    | .restore _ | .revert _ | .leaveText .. =>
      (leaveLoops loops rest).map fun (kept, after) => (f :: kept, after)
    | .leave .. => none
    | _ => leaveLoops loops rest

/-- How many loops of the current function the shell is in. -/
def loopsOf : List Frame → Nat
  | [] => 0
  | f :: rest =>
    match f with
    | .again .. | .each .. | .tested .. | .counted .. | .counting .. => loopsOf rest + 1
    | .leave .. => 0
    | _ => loopsOf rest

/-- What is left to do when a function or file is left. -/
def leaveFunction : List Frame → List Frame
  | [] => []
  | f :: rest =>
    match f with
    | .leave .. | .leaveText true .. => f :: rest
    | .restore _ | .revert _ | .leaveText false .. => f :: leaveFunction rest
    | _ => leaveFunction rest

/-- Whether the shell is in a function or a file. -/
def isWithin : List Frame → Bool
  | [] => false
  | .leave .. :: _ | .leaveText true .. :: _ => true
  | _ :: rest => isWithin rest

def pathOf (place : Place) : String :=
  Shell.textOf (FileTree.path place).bytes

def locate (a : Actor) (path : String) : Except Failure (Place × Entry) :=
  a.m.tree.locate (FileTree.path a.p.directory) ⟨Shell.rawOf path⟩

def describe : Failure → String
  | .system fault => fault.description
  | e => e.message

end Actor

end RLanguageHost.Machine
