import RLanguageHost.Machine.Builtin.Inquiry

/-!
# Programs that shells run

A shell runs a program in a process of its own, or in its own place. A program that cannot be run is
reported where the messages of the program would have gone.
-/

namespace RLanguageHost.Machine.Actor

open Shell (Frame)

/-- A process of its own for a part of the script. Actions on signals stay behind. -/
def forkShell (a : Actor) (isTested : Bool) (frames : List Frame) (f : Proc → Proc) : Nat × Actor :=
  let s := { a.s with
    frames, yieldsLast := true, isSubshell := true, background := [], received := []
    isTested := a.s.isTested || isTested
    errorAction := if a.s.options.isOn "errtrace" then a.s.errorAction else none
    actions := a.s.actions.filter fun x => x.2 = ""
    outerActions := a.choose [] (a.s.outerActions ++ a.s.actions.filter fun x => x.2 ≠ "") }
  let (pid, m) := a.m.fork a.p fun p => f { p with program := .shell s }
  (pid, { a with m })

structure Launch where
  line : Nat
  /-- The name by which it is looked for. -/
  name : String
  /-- The arguments, the first of which is the name by which it is called. -/
  arguments : List String
  environment : List String
  searchPath : String
  /-- Whether the shell gives its place up. -/
  inPlace : Bool := false
  /-- Whether it was asked to do so. -/
  isExec : Bool := false
  /-- Whether the shell no longer counts as one around the program. -/
  countsOut : Bool := false

/-- The path under which a program is found. -/
def Launch.path (l : Launch) (m : Machine) (p : Proc) : String :=
  if l.name.contains '/' then l.name
  else
    let candidates := (l.searchPath.splitOn ":").map fun d =>
      (if d = "" then "." else d) ++ "/" ++ l.name
    (candidates.find? fun path =>
      match m.tree.locate (FileTree.path p.directory) ⟨Shell.rawOf path⟩ with
      | .ok (_, .file _ executable) => executable
      | _ => false).getD l.name

/-- What a shell says about a program that cannot be run, line by line, and the status. -/
def launchFault (a : Actor) (l : Launch) (fault : SystemFault) : List String × Nat :=
  let name := l.name
  let isPath := name.contains '/'
  let about := if l.isExec then "exec: " else ""
  let missing := fault = .noEntry || fault = .notDirectory
  match a.s.dialect with
  | .posix =>
    if name = "" then ([about ++ ": Permission denied"], 127)
    else if missing then ([about ++ name ++ ": not found"], 127)
    else ([about ++ name ++ ": " ++ fault.description], 126)
  | .bash =>
    let found := a.locate name
    let isDirectory := match found with | .ok (_, .directory) => true | _ => false
    if name = "" || (missing && !isPath) then
      if l.searchPath = "" && name ≠ "" then ([about ++ name ++ ": No such file or directory"], 127)
      else ([about ++ (if Shell.Change.hasControls name then Shell.Change.escaped name else name)
        ++ (if l.isExec then ": not found" else ": command not found")], 127)
    else if fault = .noEntry && found.toOption.isSome then
      ([name ++ ": cannot execute: required file not found"], 127)
    else if fault = .noEntry then ([name ++ ": No such file or directory"], 127)
    else
      let why := if isDirectory && fault = .denied then "Is a directory" else fault.description
      let shown := if !l.isExec || name.startsWith "/" then name
        else a.here ++ "/" ++ (if name.startsWith "./" then (name.drop 2).toString else name)
      (if l.isExec then [shown ++ ": " ++ why, "exec: " ++ shown ++ ": cannot execute: " ++ why]
        else [name ++ ": " ++ why], 126)

/-- The environment of a program: the larger shell adds the path of the program, and counts itself
out when it gives its place up. -/
def Launch.finalEnvironment (l : Launch) (d : Shell.Dialect) (path : String) : List String :=
  match d with
  | .posix => l.environment
  | .bash =>
    let counted := l.environment.map fun e =>
      if l.countsOut && e.startsWith "SHLVL=" then
        "SHLVL=" ++ toString (((e.drop 6).toString.toInt?.getD 1) - 1)
      else e
    if l.isExec then counted
    else (counted.filter fun e => !e.startsWith "_=") ++ ["_=" ++ path]

/-- Runs a program, with the streams of a process. -/
def launch (a : Actor) (p : Proc) (l : Launch) : Actor :=
  let path := l.path a.m p
  let environment := l.finalEnvironment a.s.dialect path
  let begin_ (image : Image) : Actor :=
    if l.inPlace then
      let m := a.m.modify a.p.pid fun _ => p
      { a with m := m.execute p environment image, replaced := true }
    else
      let (pid, m) := a.m.fork p id
      let s := if l.name.contains '/' then a.s else rememberPath a.s l.name path true
      match m.proc? pid with
      | some child => { a with m := m.execute child environment image, s }.push (.await pid)
      | none => a
  match findImage a.m p.directory l.searchPath l.name l.arguments with
  | .ok image => begin_ image
  | .error fault =>
    -- a file that names no program is a script of the shell itself
    if fault = .noExecutable then
      begin_ ⟨a.choose "sh" "bash", a.choose "sh" "bash" :: path :: l.arguments.drop 1⟩
    else
      let (texts, status) := a.launchFault l fault
      let lead := if l.isExec then a.s.lead l.line else a.s.ownLead l.line
      let message := String.join (texts.map fun t => lead ++ t ++ "\n")
      let a := if l.inPlace then a.leaveShell status else a
      let (pid, m) := a.m.fork p fun q =>
        { q with program := .tool (.print [(2, Shell.rawOf message)] status) }
      { a with m }.push (.await pid)

end RLanguageHost.Machine.Actor
