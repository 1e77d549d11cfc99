import RLanguageHost.Machine.Builtin.Basic

/-!
# The flow of a script

The commands that leave loops, functions, files and the shell, and those that carry out texts and
files as scripts.
-/

namespace RLanguageHost.Machine.Actor

open Shell (Frame)

/-- The status from before the action that the shell is carrying out, or else the last one. -/
def statusBefore (a : Actor) : Nat :=
  (a.s.frames.findSome? fun f =>
    match f with
    | .status n | .exit n => some n
    | _ => none).getD a.s.status

def exit (a : Actor) (line : Nat) (arguments : List String) : Actor :=
  a.withNumber line "exit" arguments a.statusBefore (fun text => a.fail line text 2)
    fun n => a.leaveShell (n % 256).toNat

/-- `return`. -/
def leaveFunctionWith (a : Actor) (line : Nat) (arguments : List String) : Actor :=
  let left := a.withFrames (leaveFunction a.s.frames)
  match a.s.dialect, isWithin a.s.frames with
  | .bash, false =>
    a.complain line "return: can only \x60return\x27 from a function or sourced script" 2
  | _, _ =>
    a.withNumber line "return" arguments a.s.status (fun text => left.complain line text 2)
      fun n => left.done (n % 256).toNat

/-- The loops of the current function are left, or begin their next round. -/
def leaveLoop (a : Actor) (again : Bool) (loops : Nat) : Actor :=
  match leaveLoops (min loops (loopsOf a.s.frames)) a.s.frames with
  | none => a.done 0
  | some (kept, frames) =>
    (a.withFrames (kept ++ if again then frames else frames.drop 1)).done 0

/-- `break` and `continue`. -/
def breakLoop (a : Actor) (line : Nat) (name : String) (arguments : List String) : Actor :=
  let again := name = "continue"
  if a.s.dialect = .bash && loopsOf a.s.frames = 0 then
    a.complain line
      (name ++ ": only meaningful in a \x60for\x27, \x60while\x27, or \x60until\x27 loop")
      0
  else
    a.withNumber line name arguments 1 (fun text => a.fail line text 128)
      fun n =>
        if 0 < n then a.leaveLoop again n.toNat
        else
          match a.s.dialect with
          | .posix => a.refuse line (name ++ ": Illegal number: " ++ arguments.head?.getD "") 2
          | .bash =>
            (a.leaveLoop false (loopsOf a.s.frames)).complain line
              (name ++ ": " ++ arguments.head?.getD "" ++ ": loop count out of range") 1

def shift (a : Actor) (line : Nat) (arguments : List String) : Actor :=
  a.withNumber line "shift" arguments 1 (fun text => a.complain line text 1)
    fun n =>
      if n < 0 then
        a.complain line ("shift: " ++ toString n ++ ": shift count out of range") 1
      else if (a.s.parameters.length : Int) < n then
        match a.s.dialect with
        | .posix => a.refuse line "shift: can\x27t shift that many" 2
        | .bash => a.done 1
      else { a with s := { a.s with parameters := a.s.parameters.drop n.toNat } }.done 0

/-- `eval`. The small shell numbers the lines of the text by themselves. -/
def evaluate (a : Actor) (line : Nat) (arguments : List String) : Actor :=
  let text := " ".intercalate (a.choose arguments (afterHyphens arguments))
  let a := a.push (.leaveText false a.s.origin none)
  let origin := a.choose (some "eval") a.s.origin
  { a with s := { a.s with origin } }.perform (a.choose 1 line) "eval" text

/-- The file that a name without slash means to a shell that reads it: one in the search path, and
for the larger shell else one in the directory that it works in. -/
def fileToRead? (a : Actor) (name : String) : Option String :=
  if name.contains '/' then some name
  else
    let searchPath := (a.s.value? "PATH").getD defaultSearchPath
    let isFile (path : String) : Bool :=
      a.m.tree.isFile (FileTree.path a.p.directory) ⟨Shell.rawOf path⟩
    let candidates := (searchPath.splitOn ":").map fun d =>
      (if d = "" then "." else d) ++ "/" ++ name
    (candidates.find? isFile).or (a.choose none (some name))

/-- `.` and `source`. -/
def readFile (a : Actor) (line : Nat) (name : String) (arguments : List String) : Actor :=
  match afterHyphens arguments, a.s.dialect with
  | [], .posix => a.done 0
  | [], .bash => a.misuse line name "filename argument required"
  | file :: rest, dialect =>
    match a.fileToRead? file with
    | none => a.refuse line (".: " ++ file ++ ": not found") 2
    | some path =>
      match a.m.tree.read (FileTree.path a.p.directory) ⟨Shell.rawOf path⟩, dialect with
      | .ok content, _ =>
        let parameters := if dialect = .bash && !rest.isEmpty then some a.s.parameters else none
        let a := a.push (.leaveText true a.s.origin parameters)
        let a :=
          { a with s := { a.s with
            origin := some path
            parameters := if parameters.isSome then rest else a.s.parameters } }
        a.perform 1 path (Shell.textOf content)
      | .error (.system .isDirectory), .posix => a.done 0
      | .error (.system .isDirectory), .bash =>
        a.complain line (name ++ ": " ++ file ++ ": is a directory") 1
      | .error _, .posix => a.refuse line (".: cannot open " ++ file ++ ": No such file") 2
      | .error e, .bash => a.complain line (file ++ ": " ++ describe e) 1

end RLanguageHost.Machine.Actor
