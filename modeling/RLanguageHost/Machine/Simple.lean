import RLanguageHost.Machine.Builtin
import RLanguageHost.Machine.Launch
import RLanguageHost.Machine.Trace

/-!
# Simple commands at work

A simple command is expanded, its streams are led elsewhere, and then it is carried out by the shell
itself, by a function, or by a process of its own. Assignments before a command hold for the command
alone, but those before a special command of the small shell stay.
-/

namespace RLanguageHost.Machine.Actor

open Shell (Frame Simple)

/-- The names that a field stands for: files that it matches as a pattern, else its own text. -/
def filesOf (a : Actor) (options : Shell.Options) (f : Shell.Field) : List String :=
  if !f.isPattern || options.noFiles then [f.text]
  else
    let names (directory : String) : List String :=
      match a.locate (if directory = "" then "." else directory) with
      | .ok (place, .directory) =>
        let found := (a.m.tree.entries.filterMap fun (q, _) =>
          if q.dropLast = place && q ≠ [] then q.getLast?.map Shell.textOf else none)
        (found.mergeSort fun x y => decide (x ≤ y))
      | _ => []
    let isDirectory (path : String) : Bool :=
      match a.locate path with
      | .ok (_, .directory) => true
      | _ => false
    -- each part between slashes is looked for in the directories that were found before
    let parts := splitParts [] f
    let found := parts.zipIdx.foldl (fun (found : List String) (part, i) =>
      let isLast := i + 1 = parts.length
      let next :=
        if !Shell.Field.isPattern part then found.map (· ++ Shell.Field.text part)
        else
          found.flatMap fun d =>
            ((names d).filter fun n =>
              Shell.Field.isMatch part n.toList
                && (!n.startsWith "." || part.head? = some ('.', false)
                  || options.hiddenFiles)).map (d ++ ·)
      if isLast then next.filter fun path =>
        Shell.Field.isPattern part || (a.locate path).toOption.isSome
      else (next.filter fun path => path = "" || isDirectory path).map (· ++ "/")) [""]
    if found.isEmpty then (if options.nothingForNone then [] else [f.text]) else found
where
  /-- The parts of a field between slashes that are not quoted away. -/
  splitParts (acc : Shell.Field) : Shell.Field → List Shell.Field
    | [] => [acc.reverse]
    | c :: rest => if c.1 = '/' then acc.reverse :: splitParts [] rest
        else splitParts (c :: acc) rest

def expand (a : Actor) (s : Shell.State) (words : List Shell.Word) :
    Except Shell.Stop (List String × Shell.State) := do
  let (fields, s) ← Shell.Expansion.allFields s words
  return (fields.flatMap (a.filesOf s.options), s)

/-- The commands whose arguments can be assignments. -/
def declares (d : Shell.Dialect) (name : String) : Bool :=
  ["export", "readonly", "local"].contains name
    || (d = .bash && ["declare", "typeset"].contains name)

/-- Expands the words of a command. Arguments that declare variables are not split, and arrays among
them come apart. -/
def expandCommand (a : Actor) (s : Shell.State) (words : List Shell.Word) :
    Except Shell.Stop (List String × List Shell.Assignment × Shell.State) := do
  let first := words.head?.bind Shell.Word.bare?
  if first.any (declares s.dialect) then
    words.foldlM (fun (texts, arrays, s) w => do
      match Shell.Script.assignment? s.dialect w with
      | some target =>
        if Shell.Expansion.isArray target.value then
          return (texts ++ [target.name], arrays ++ [target], s)
        else
          let (value, s) ← Shell.Expansion.assigned s target.value
          let (subscript, s) ← match target.subscript with
            | none => pure ("", s)
            | some key => do
              let (key, s) ← Shell.Expansion.textOf s .operand key
              pure ("[" ++ key ++ "]", s)
          let text := target.name ++ subscript ++ (if target.appends then "+=" else "=") ++ value
          return (texts ++ [text], arrays, s)
      | none =>
        let (more, s) ← a.expand s [w]
        return (texts ++ more, arrays, s)) ([], [], s)
  else
    let (texts, s) ← a.expand s words
    return (texts, [], s)

/-- What assignments make of a shell, with the names, the texts that a trace shows, and what is said
about variables that keep their values: the larger shell runs the command all the same. -/
structure Assigned where
  s : Shell.State
  shown : List (String × String) := []
  faults : List String := []

/-- Carries out assignments in order. -/
def assignAll (a : Actor) (beforeCommand : Bool) (s : Shell.State)
    (assignments : List Shell.Assignment) : Except Shell.Stop Assigned :=
  assignments.foldlM (fun (r : Assigned) x => do
    let name := r.s.resolve x.name
    if beforeCommand && r.s.dialect = .bash && r.s.isConstant name then
      return { r with faults := r.faults ++ [(r.s.constantFault name).text] }
    else
      let s ← Shell.Expansion.assign (a.filesOf r.s.options) r.s x
      let value :=
        if Shell.Expansion.isArray x.value then shownArray x.value
        else
          match x.subscript with
          | none => (s.value? x.name).getD ""
          | some key => ((s.pairs x.name).lookup key).getD ""
      let target := x.name ++ ((x.subscript.map fun k => "[" ++ k ++ "]").getD "")
        ++ if x.appends then "+" else ""
      return { r with s, shown := r.shown ++ [(target, value)] }) { s }

/-- What a redirection fault says, and the status of the command that it keeps from running. -/
def redirectionFailed (a : Actor) (line : Nat) (fault : RedirectionFault) : Actor :=
  match fault with
  | .target x => a.stop line x
  | .opening text =>
    let status := a.choose 2 1
    if a.isSpecial && a.s.dialect = .posix then (a.leaveShell status).report line text status
    else a.report line text status
  | .refused target =>
    a.say 2 (a.s.name ++ ": connect: Connection refused\n" ++ a.s.lead line ++ target
      ++ ": Connection refused\n") 1

/-- Calls a function. What is assigned before its name holds as long as it runs. -/
def callFunction (a : Actor) (name : String) (body : Shell.Command) (arguments : List String) :
    Actor :=
  let parameters := a.s.parameters
  let s := { a.s with parameters := arguments, callers := name :: a.s.callers }
  ({ a with s }.push (.leave parameters [])).push (.run body)

/-- A command that has been expanded. -/
structure Prepared where
  line : Nat
  /-- The state with what is assigned before the command. -/
  assigned : Assigned
  /-- The values that the assigned variables had before. -/
  earlier : List (String × Option Shell.Variable)
  name : String
  arguments : List String
  arrays : List Shell.Assignment := []
  /-- Whether functions are passed over. -/
  skipsFunctions : Bool := false
  /-- Whether programs are looked for in the usual places. -/
  usualPath : Bool := false
  /-- Whether streams are led elsewhere. -/
  redirects : Bool := false

/-- The state of a command with the variables that are assigned for it handed on. -/
def Prepared.exporting (c : Prepared) : Shell.State :=
  c.earlier.foldl (fun s (name, _) => withAttributes s name fun t => { t with exported := true })
    c.assigned.s

/-- A program that a command runs. -/
def Prepared.launch (c : Prepared) (name : String) (arguments : List String) : Launch :=
  let s := c.exporting
  { line := c.line, name, arguments := name :: arguments
    environment := s.environment (c.earlier.map (·.1))
    searchPath := if c.usualPath then defaultSearchPath else (s.value? "PATH").getD "" }

/-- `exec` with arguments. -/
def replaceShell (a : Actor) (p : Proc) (c : Prepared) : Actor :=
  let go (flags : Flags) : List String → Actor
    | [] => { a with p, s := c.assigned.s }.done 0
    | name :: arguments =>
      let l := c.launch name arguments
      let called := (if flags.has 'l' then "-" else "") ++ (flags.value? 'a').getD name
      a.launch p { l with
        arguments := called :: arguments, inPlace := true, isExec := true, countsOut := true
        environment := if flags.has 'c' then [] else l.environment }
  match a.s.dialect with
  | .posix => go [] c.arguments
  | .bash => a.withFlags c.line "exec" "cl" "a" c.arguments go

/-- Carries out a command whose streams have been led elsewhere, in a process with its streams. -/
def carryOut : (fuel : Nat) → Actor → Proc → List (Nat × Option Handle) → Prepared → Actor
  | 0, a, _, _, _ => a
  | fuel + 1, a, p, saved, c =>
    let d := a.s.dialect
    let isSpecial := isSpecialIn d c.name && !c.skipsFunctions
    -- the command, with what is brought back after it
    let within (stays : Bool) : Actor :=
      let a := if stays || c.earlier.isEmpty then a else a.push (.revert c.earlier)
      let frames := a.s.frames
      let s := if stays then c.assigned.s else c.exporting
      { a with p, s := { s with frames }, isSpecial }.push (.restore saved)
    let function := if c.skipsFunctions then none else a.s.functions.lookup c.name
    match function with
    | some body => (within false).callFunction c.name body c.arguments
    | none =>
      if c.name = "exec" then a.replaceShell p c
      else if c.name = "command" then
        ({ a with isSpecial := false }).withFlags c.line "command" "pVv" "" c.arguments
          fun flags operands =>
            let within := (within true)
            if flags.has 'v' || flags.has 'V' then
              within.explainCommand c.line (flags.has 'V') operands
            else
              match operands with
              | [] => (within.done 0)
              | name :: arguments =>
                carryOut fuel a p saved
                  { c with name, arguments, skipsFunctions := true, usualPath := flags.has 'p' }
      else if c.name = "builtin" && d = .bash then
        match afterHyphens c.arguments with
        | [] => (within true).done 0
        | name :: arguments =>
          if isBuiltin d name then
            carryOut fuel a p saved { c with name, arguments, skipsFunctions := true }
          else
            (within true).complain c.line ("builtin: " ++ name ++ ": not a shell builtin") 1
      else if isBuiltin d c.name then
        (within (isSpecial && d = .posix)).builtin
          { line := c.line, name := c.name, arguments := c.arguments, arrays := c.arrays
            files := a.filesOf a.s.options }
      else
        let isLast := a.s.yieldsLast && a.s.frames.isEmpty && !a.s.actions.any (·.2 ≠ "")
          && (a.s.isSubshell || !c.redirects)
        a.launch p { c.launch c.name c.arguments with
          inPlace := isLast, countsOut := isLast && !a.s.isStage }

/-- How many commands can stand before the one that is carried out. -/
def wrappers : Nat := 100

/-- The last argument of a command, which the larger shell remembers. -/
def rememberLast (s : Shell.State) (texts : List String) : Shell.State :=
  match s.dialect, texts.getLast? with
  | .bash, some last => s.bind { s.bindingOrNew "_" with value := some last }
  | _, _ => s

/-- A simple command without words: only streams are opened and variables assigned. -/
def assignOnly (a : Actor) (c : Simple) (s : Shell.State) : Actor :=
  -- the larger shell assigns even if a stream cannot be opened
  match redirect a.m a.p (a.filesOf s.options) s c.redirections, a.s.dialect with
  | .error (.target x), _ => a.stop c.line x
  | .error fault, .posix => a.redirectionFailed c.line fault
  | .error fault, .bash =>
    match a.assignAll false s c.assignments with
    | .error x => a.stop c.line x
    | .ok r => { a with s := r.s }.redirectionFailed c.line fault
  | .ok (m, _, s, _), _ =>
    match a.assignAll false s c.assignments with
    | .error x => a.stop c.line x
    | .ok r => ({ a with m, s := r.s }.traceCommand r.shown []).done (r.s.outputStatus.getD 0)

def runSimple (a : Actor) (c : Simple) : Actor :=
  let s := { a.s with line := c.line, outputStatus := none }
  let a := { a with s := { a.s with line := c.line } }
  match a.expandCommand s c.words with
  | .error x => a.stop c.line x
  | .ok ([], _, s) => a.assignOnly c s
  | .ok (name :: arguments, arrays, s) =>
    let a := { a with
      isSpecial := isSpecialIn s.dialect name && (s.functions.lookup name).isNone }
    match redirect a.m a.p (a.filesOf s.options) s c.redirections with
    | .error fault => a.redirectionFailed c.line fault
    | .ok (m, p, s, saved) =>
      match a.assignAll true s c.assignments with
      | .error x => a.stop c.line x
      | .ok assigned =>
        let s := rememberLast s (name :: arguments)
        let assigned := { assigned with s := rememberLast assigned.s (name :: arguments) }
        let a := { a with m, s }.traceCommand assigned.shown (name :: arguments)
        let faults := String.join (assigned.faults.map fun t => a.s.lead c.line ++ t ++ "\n")
        let a := if faults = "" then a else a.note 2 faults
        carryOut wrappers a p saved
          { line := c.line, assigned, name, arguments, arrays
            earlier := assigned.shown.map fun v => (v.1, s.binding? v.1)
            redirects := !c.redirections.isEmpty }

end RLanguageHost.Machine.Actor
