import RLanguageHost.Machine.Builtin.Basic
import RLanguageHost.Shell.Condition
import RLanguageHost.Shell.Criterion
import RLanguageHost.Shell.Format
import RLanguageHost.Shell.Listing
import RLanguageHost.Shell.Test

/-!
# Commands that answer

The commands that write text, evaluate conditions, and say what the name of a command means.
-/

namespace RLanguageHost.Machine

/-- The commands of a shell whose assignments stay, and whose faults end the small one. -/
def specialNames : List String :=
  [":", ".", "break", "continue", "eval", "exec", "exit", "export", "readonly", "return", "set",
    "shift", "times", "trap", "unset"]

/-- The commands that a shell carries out itself. -/
def builtinNames (d : Shell.Dialect) : List String :=
  specialNames
    ++ ["[", "alias", "bg", "cd", "command", "echo", "false", "fg", "getopts", "hash", "jobs",
      "kill", "local", "printf", "pwd", "read", "test", "true", "type", "ulimit", "umask",
      "unalias", "wait"]
    ++ d.choose ["chdir"]
      ["bind", "builtin", "caller", "compgen", "complete", "compopt", "declare", "dirs", "disown",
        "enable", "fc", "help", "history", "let", "logout", "mapfile", "popd", "pushd", "readarray",
        "shopt", "source", "suspend", "typeset"]

/-- Whether a shell carries out a command itself. -/
def isBuiltin (d : Shell.Dialect) (name : String) : Bool :=
  (builtinNames d).contains name

/-- Whether faults of a command end the small shell. -/
def isSpecialIn (d : Shell.Dialect) (name : String) : Bool :=
  specialNames.contains name || (d = .posix && name = "local")

/-- The words that structure commands. -/
def keywords (d : Shell.Dialect) : List String :=
  Shell.Script.reserved ++ d.choose [] ["[[", "]]", "coproc", "function", "select", "time"]

namespace Actor

def fileCondition (a : Actor) (condition : Char) (path : String) : Bool :=
  match a.locate path with
  | .error _ => false
  | .ok (_, .directory) => "edrwxsOGN".toList.contains condition
  | .ok (_, .file content executable) =>
    if path = "/dev/null" then "ecrwOG".toList.contains condition
    else if condition = 's' then !content.isEmpty
    else if condition = 'x' then executable
    else "efrwOGN".toList.contains condition

/-- What the small shell knows about paths. -/
def knowsFiles (a : Actor) : Shell.Facts where
  holds := a.fileCondition
  isSame x y :=
    match a.locate x, a.locate y with
    | .ok (p, _), .ok (q, _) => p = q
    | _, _ => false

/-- Whether what a letter asks for holds of a file, a variable or an option. -/
def wordCondition (a : Actor) (s : Shell.State) (condition : Char) (word : String) : Bool :=
  match condition with
  | 'v' =>
    match Shell.Expansion.parameterNamed? s.dialect word with
    | some p =>
      match p.subscript with
      | some key =>
        if key = "@" || key = "*" then !(s.pairs p.name).isEmpty
        else ((s.pairs p.name).lookup key).isSome
      | none => (s.value? p.name).isSome
    | none => false
  | 'o' => s.options.isOn word
  | 'R' => (s.binding? word).any (·.attributes.reference)
  | 't' => false
  | c => a.fileCondition c word

/-- What the larger shell knows about words. -/
def knows (a : Actor) (s : Shell.State) : Shell.Facts :=
  { a.knowsFiles with holds := a.wordCondition s }

def test (a : Actor) (line : Nat) (name : String) (arguments : List String) : Actor :=
  if name = "[" && arguments.getLast? ≠ some "]" then
    a.complain line ("[: missing " ++ a.choose "]" "\x60]\x27") 2
  else
    let words := if name = "[" then arguments.dropLast else arguments
    let result : Except String Bool :=
      match a.s.dialect with
      | .posix => (Shell.Condition.holds a.knowsFiles words).mapError (·.message)
      | .bash =>
        (Shell.Criterion.holds (a.knows a.s) words).mapError
          (Shell.Criterion.Fault.message .bash)
    match result with
    | .ok holds => a.done (if holds then 0 else 1)
    | .error text => a.complain line (name ++ ": " ++ text) 2

/-- `printf`. -/
def formatArguments (a : Actor) (line : Nat) (arguments : List String) : Actor :=
  a.withFlags line "printf" "" (a.choose "" "v") arguments fun flags operands =>
    match operands with
    | [] =>
      a.choose (a.complain line "printf: usage: printf format [arg ...]" 2) (a.showUsage "printf")
    | format :: rest =>
      let pass := Shell.Format.printf (.ofDialect a.s.dialect) format rest
      let faults := String.join (pass.faults.map fun f => a.s.lead line ++ "printf: " ++ f ++ "\n")
      let report (a : Actor) : Actor := if faults = "" then a else a.say 2 faults pass.status
      match flags.value? 'v' with
      | none =>
        if pass.written = "" then report (a.done pass.status)
        else report (a.say 1 pass.written pass.status)
      | some name =>
        match Shell.Expansion.parameterNamed? a.s.dialect name with
        | some p =>
          if !Shell.isName p.name then a.complain line (a.badName "printf" name) 2
          else
            match a.s.take p.name p.subscript false pass.written with
            | .ok s => report ({ a with s }.done pass.status)
            | .error x => a.complain line x.text 1
        | none => a.complain line (a.badName "printf" name) 2

/-- The paths in which the search path has a program of some name. -/
def pathsOf (a : Actor) (name : String) : List String :=
  let runs (path : String) : Bool :=
    match a.locate path with
    | .ok (_, .file _ executable) => executable
    | _ => false
  if name.contains '/' then if runs name then [name] else []
  else
    let searchPath := (a.s.value? "PATH").getD ""
    (((searchPath.splitOn ":").map fun d => (if d = "" then "." else d) ++ "/" ++ name).filter runs)

inductive Meaning where
  | alias (text : String)
  | keyword
  | function
  | builtin
  | file (path : String) (isRemembered : Bool)
  deriving Repr, DecidableEq

/-- All meanings of a name, the one that counts first. -/
def meanings (a : Actor) (name : String) : List Meaning :=
  let d := a.s.dialect
  let remembered := a.s.remembered.any (·.1 = name)
  (if (keywords d).contains name then [.keyword] else [])
    ++ (if d = .posix then ((a.s.aliases.lookup name).map Meaning.alias).toList else [])
    ++ (if a.s.functions.any (·.1 = name) then [.function] else [])
    ++ (if isBuiltin d name then [.builtin] else [])
    ++ (a.pathsOf name).map fun path => .file path (remembered && !name.contains '/')

def describeMeaning (d : Shell.Dialect) (name : String) (meaning : Meaning) : String :=
  name ++ (match meaning with
    | .alias text => " is an alias for " ++ text
    | .keyword => " is a shell keyword"
    | .function => d.choose " is a shell function" " is a function"
    | .builtin =>
      if d = .posix && specialNames.contains name then " is a special shell builtin"
      else " is a shell builtin"
    | .file path false => " is " ++ path
    | .file path true => d.choose (" is a tracked alias for " ++ path)
      (" is hashed (" ++ path ++ ")"))
    ++ "\n"

/-- What can be typed to mean the same. -/
def shortMeaning (d : Shell.Dialect) (name : String) (meaning : Meaning) : String :=
  match meaning with
  | .alias text => "alias " ++ name ++ "=" ++ Shell.Listing.quoted d text ++ "\n"
  | .file path _ => path ++ "\n"
  | _ => name ++ "\n"

def kindOfMeaning : Meaning → String
  | .alias _ => "alias\n"
  | .keyword => "keyword\n"
  | .function => "function\n"
  | .builtin => "builtin\n"
  | .file .. => "file\n"

/-- Remembers where a program was found. -/
def rememberPath (s : Shell.State) (name path : String) (used : Bool) : Shell.State :=
  if s.remembered.any (·.1 = name) then
    { s with remembered := s.remembered.map fun x =>
        if x.1 = name then (name, path, x.2.2 + if used then 1 else 0) else x }
  else { s with remembered := s.remembered ++ [(name, path, if used then 1 else 0)] }

/-- The small shell remembers the programs that it was asked about. -/
def rememberAsked (a : Actor) (names : List String) : Actor :=
  match a.s.dialect with
  | .bash => a
  | .posix =>
    { a with s := names.foldl (fun s n =>
        match (a.meanings n).head? with
        | some (.file path _) => if n.contains '/' then s else rememberPath s n path false
        | _ => s) a.s }

/-- Answers about names; what is said about those that mean nothing goes where the shell says it. -/
def answerAbout (a : Actor) (line : Nat) (command : String) (names : List String)
    (answer : String → List Meaning → String) : Actor :=
  let shown := names.map fun n => (n, a.meanings n)
  let missing := (shown.filter (·.2.isEmpty)).map (·.1)
  match a.s.dialect with
  | .posix =>
    a.say 1 (String.join (shown.map fun (n, all) =>
        if all.isEmpty then n ++ ": not found\n" else answer n all))
      (if missing.isEmpty then 0 else 127)
  | .bash =>
    let status := if missing.isEmpty then 0 else 1
    (a.say 2 (String.join (missing.map fun n =>
        a.s.lead line ++ command ++ ": " ++ n ++ ": not found\n")) status).say 1
      (String.join ((shown.filter (!·.2.isEmpty)).map fun (n, all) => answer n all)) status

/-- `type`. -/
def explain (a : Actor) (line : Nat) (arguments : List String) : Actor :=
  match a.s.dialect with
  | .posix =>
    (a.answerAbout line "type" arguments fun n all =>
      String.join ((all.take 1).map (describeMeaning .posix n))).rememberAsked arguments
  | .bash =>
    a.withFlags line "type" "afptP" "" arguments fun flags names =>
      let isFile (m : Meaning) : Bool := match m with | .file .. => true | _ => false
      let pick (all : List Meaning) : List Meaning :=
        let all := if flags.has 'f' then all.filter (· ≠ .function) else all
        let all := if flags.has 'P' then all.filter isFile else all
        if flags.has 'a' then all else all.take 1
      let status := if names.all fun n => !(pick (a.meanings n)).isEmpty then 0 else 1
      if flags.has 't' then
        a.say 1 (String.join (names.map fun n =>
          String.join ((pick (a.meanings n)).map kindOfMeaning))) status
      else if flags.has 'p' || flags.has 'P' then
        a.say 1 (String.join (names.map fun n =>
          String.join (((pick (a.meanings n)).filter isFile).map (shortMeaning .bash n)))) status
      else
        a.answerAbout line "type" names fun n all =>
          String.join ((pick all).map (describeMeaning .bash n))

/-- `command` with the options that ask about names. -/
def explainCommand (a : Actor) (line : Nat) (long : Bool) (names : List String) : Actor :=
  let d := a.s.dialect
  let first (n : String) (all : List Meaning) : String :=
    String.join ((all.take 1).map (if long then describeMeaning d n else shortMeaning d n))
  let names := a.choose (names.take 1) names
  let answered :=
    if long then a.answerAbout line "command" names first
    else
      let shown := names.map fun n => first n (a.meanings n)
      a.say 1 (String.join shown)
        (if shown.all (· ≠ "") then 0 else if shown.any (· ≠ "") then a.choose 127 0
          else a.choose 127 1)
  answered.rememberAsked names

/-- `hash`. -/
def hashNames (a : Actor) (line : Nat) (arguments : List String) : Actor :=
  a.withFlags line "hash" (a.choose "rv" "dlrt") (a.choose "" "p") arguments fun flags names =>
    if flags.has 'r' then { a with s := { a.s with remembered := [] } }.done 0
    else if names.isEmpty then
      match a.s.dialect with
      | .posix => a.print (String.join (a.s.remembered.map fun x => x.2.1 ++ "\n"))
      | .bash =>
        if a.s.remembered.isEmpty then a.print "hash: hash table empty\n"
        else
          a.print ("hits\tcommand\n" ++ String.join (a.s.remembered.map fun x =>
            Utility.padded 4 x.2.2 ++ "\t" ++ x.2.1 ++ "\n"))
    else
      let missing := names.filter fun n =>
        (a.pathsOf n).isEmpty && !isBuiltin a.s.dialect n && !a.s.functions.any (·.1 = n)
      let s := names.foldl (fun s n =>
        match a.pathsOf n with
        | path :: _ => if n.contains '/' then s else rememberPath s n path false
        | [] => s) a.s
      { a with s }.say 2 (String.join (missing.map fun n =>
          a.s.lead line ++ "hash: " ++ n ++ ": not found\n")) (if missing.isEmpty then 0 else 1)

end Actor

end RLanguageHost.Machine
