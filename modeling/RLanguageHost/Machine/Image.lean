import RLanguageHost.Machine.Tool

/-!
# Program images

How the file of a program is found and what it makes a process run. The machine's own programs are
files with a mark at their start, and go by their names; any other file runs through the program
that its first line names.
-/

namespace RLanguageHost.Machine

/-- The bytes at the start of the machine's own programs. -/
def mark : Bytes :=
  [0x7F, 0x45, 0x4C, 0x46]

/-- A program with its arguments, the first of which is the name it was called by. -/
structure Image where
  utility : String
  arguments : List String
  deriving Repr, Inhabited

def shellNamed? (name : String) : Option Shell.Dialect :=
  if name = "sh" || name = "dash" then some .posix
  else if name = "bash" then some .bash
  else none

def utilityNames : List String :=
  ["sh", "dash", "bash"] ++ toolNames

/-- The directories that a machine always has, and its programs. -/
def baseTree : FileTree :=
  let place (s : String) : Place := FileTree.placeOf (.ofString s)
  let tree : FileTree :=
    ["tmp", "usr/bin", "usr/local/bin", "usr/lib", "usr/share", "bin", "etc", "dev", "home", "opt",
      "root", "var/tmp", "proc", "srv"].foldl (fun t d => t.makeDirectories (place d)) {}
  let accounts := bytesOf "root:x:0:0:root:/root:/bin/bash\n"
  let tree := tree.put (place "etc/passwd") (.file accounts false)
  let tree := tree.put (place "dev/null") (.file [] false)
  utilityNames.foldl (fun t name =>
    (t.put (place ("bin/" ++ name)) (.file mark true)).put (place ("usr/bin/" ++ name))
      (.file mark true)) tree

/-- The program and the argument that the first line of a file names. -/
def interpreter? (content : Bytes) : Option (Bytes × Option Bytes) :=
  let isBlank (b : UInt8) : Bool := b = 32 || b = 9
  let line := ((content.drop 2).takeWhile (· ≠ 10)).dropWhile isBlank
  let program := line.takeWhile fun b => !isBlank b
  let rest := (line.dropWhile fun b => !isBlank b).dropWhile isBlank
  let rest := (rest.reverse.dropWhile isBlank).reverse
  if program.isEmpty then none else some (program, if rest.isEmpty then none else some rest)

/-- The image of a file. A program that a first line names can be named by a first line itself, a
few times over. -/
def imageAt (m : Machine) (directory : Place) : (fuel : Nat) → Bytes → List String →
    Except SystemFault Image
  | 0, _, _ => .error .noExecutable
  | fuel + 1, path, arguments =>
    match m.tree.locate (FileTree.path directory) ⟨path⟩ with
    | .error (.system fault) => .error fault
    | .error _ => .error .noEntry
    | .ok (_, .directory) => .error .denied
    | .ok (place, .file content executable) =>
      if !executable then .error .denied
      else if mark.isPrefixOf content then
        .ok ⟨Shell.textOf (place.getLast?.getD []), arguments⟩
      else if !FileTree.scriptMark.isPrefixOf content then .error .noExecutable
      else
        match interpreter? content with
        | none => .error .noExecutable
        | some (program, argument) =>
          imageAt m directory fuel program
            (Shell.textOf program :: (argument.map Shell.textOf).toList ++ Shell.textOf path
              :: arguments.drop 1)

/-- How often a first line can lead to another one. -/
def interpreterDepth : Nat := 5

/-- The search path that counts when none is given. -/
def defaultSearchPath : String :=
  "/usr/local/sbin:/usr/local/bin:/usr/sbin:/usr/bin:/sbin:/bin"

/-- Looks for a program in directories. One that may not be run is passed over, but remembered. -/
def searchIn (m : Machine) (directory : Place) (name : String) (arguments : List String) :
    SystemFault → List String → Except SystemFault Image
  | worst, [] => .error worst
  | worst, d :: rest =>
    let path := Shell.rawOf ((if d = "" then "." else d) ++ "/" ++ name)
    match imageAt m directory interpreterDepth path arguments with
    | .ok image => .ok image
    | .error .denied => searchIn m directory name arguments .denied rest
    | .error .noEntry | .error .notDirectory => searchIn m directory name arguments worst rest
    | .error fault => .error fault

/-- Finds a program: a name with a slash is a path, any other is searched for. -/
def findImage (m : Machine) (directory : Place) (searchPath name : String)
    (arguments : List String) : Except SystemFault Image :=
  if name = "" then .error .noEntry
  else if name.contains '/' then imageAt m directory interpreterDepth (Shell.rawOf name) arguments
  else searchIn m directory name arguments .noEntry (searchPath.splitOn ":")

/-- The name and value of an entry of an environment; the name ends at the first equals sign. -/
def splitEntry (entry : String) : String × Option String :=
  let name := entry.toList.takeWhile (· ≠ '=')
  let rest := entry.toList.drop name.length
  (String.ofList name, if rest.isEmpty then none else some (String.ofList (rest.drop 1)))

/-- A shell at its start, with variables from its environment. A later entry counts more than an
earlier one. -/
def freshShell (dialect : Shell.Dialect) (name : String) (pid parent : Nat) (directory : Place)
    (environment : List String) : Shell.State :=
  let start : Shell.State := { dialect, name, self := pid }
  let publish (s : Shell.State) (n v : String) : Shell.State :=
    s.bind { name := n, value := some v, attributes := { exported := true } }
  let s := environment.foldl (fun s entry =>
    match splitEntry entry with
    | (n, some v) =>
      if Shell.isName n then if n = "PWD" then s else publish s n v
      else if dialect = .bash && n ≠ "" then { s with foreign := entry :: s.foreign }
      else s
    | (_, none) => s) start
  let s := publish s "PWD" (Shell.textOf (FileTree.path directory).bytes)
  let s := s.assign "OPTIND" "1"
  match dialect with
  | .posix =>
    [("IFS", " \t\n"), ("PPID", toString parent), ("PS1", "# "), ("PS2", "> "), ("PS4", "+ ")].foldl
      (fun s (n, v) => s.assign n v) s
  | .bash =>
    let level := ((s.value? "SHLVL").bind String.toNat?).getD 0
    let s := publish s "SHLVL" (toString (level + 1))
    let s := (s.assign "PS4" "+ ").assign "IFS" " \t\n"
    let fixed (s : Shell.State) (n v : String) : Shell.State :=
      s.bind { name := n, value := some v, attributes := { constant := true, integer := true } }
    let s := fixed (fixed (fixed s "UID" "0") "EUID" "0") "PPID" (toString parent)
    let s := s.bind { name := "OPTIND", value := some "1", attributes := { integer := true } }
    let s := s.assignElements "BASH_VERSINFO"
      (.indexed [(0, "5"), (1, "2"), (2, "21"), (3, "1"), (4, "release"),
        (5, "x86_64-pc-linux-gnu")])
    let s := s.bind { s.bindingOrNew "BASH_VERSINFO" with attributes := { constant := true } }
    let s := [("SHELL", "/bin/bash"), ("TERM", "dumb")].foldl (fun s (n, v) =>
      if (s.binding? n).isSome then s else s.assign n v) s
    let s := [("BASH_VERSION", "5.2.21(1)-release"), ("HOSTTYPE", "x86_64"),
      ("MACHTYPE", "x86_64-pc-linux-gnu"), ("OSTYPE", "linux-gnu"), ("BASH", "/usr/bin/bash"),
      ("OPTERR", "1"), ("_", "/usr/bin/bash")].foldl (fun s (n, v) => s.assign n v) s
    if environment.any (·.startsWith "OLDPWD=") then s
    else s.bind { name := "OLDPWD", attributes := { exported := true } }

/-- How a shell is told to begin. -/
structure Invocation where
  options : Shell.Options := {}
  /-- Whether the script is an argument. -/
  given : Bool := false
  /-- Whether the script is the standard input although there are operands. -/
  fromInput : Bool := false
  rest : List String := []
  /-- An option that the shell does not know, and whether it was given by its name. -/
  unknown : Option (String × Bool) := none

def invocationLetters (dialect : Shell.Dialect) : List Char :=
  (dialect.choose "aceufnvxmisbCIVEpl" "abcefhkmnptuvxBCEHPTilrsD").toList

def Invocation.read (dialect : Shell.Dialect) : (fuel : Nat) → Invocation → List String → Invocation
  | 0, i, _ | _, i, [] => i
  | fuel + 1, i, a :: rest =>
    match a.toList with
    | ['-', '-'] | ['-'] => { i with rest }
    | '-' :: '-' :: _ =>
      match dialect with
      | .posix => { i with unknown := some ("--", false) }
      | .bash =>
        if ["--norc", "--noprofile", "--posix", "--login", "--noediting", "--verbose"].contains a
        then Invocation.read dialect fuel i rest
        else if a = "--rcfile" || a = "--init-file" then
          Invocation.read dialect fuel i (rest.drop 1)
        else { i with unknown := some (a, false) }
    | sign :: c :: letters =>
      if sign ≠ '-' && sign ≠ '+' then { i with rest := a :: rest }
      else
        let on := sign = '-'
        let all := c :: letters
        if all.contains 'o' || (dialect = .bash && all.contains 'O') then
          match rest with
          | name :: rest =>
            let found :=
              if all.contains 'O' then i.options.setShopt? name on
              else i.options.setNamed? dialect name on
            match found with
            | some options => Invocation.read dialect fuel { i with options } rest
            | none => { i with unknown := some (name, true) }
          | [] => Invocation.read dialect fuel i rest
        else
          match all.find? fun d => !(invocationLetters dialect).contains d with
          | some d =>
            { i with unknown := some (dialect.choose ("-" ++ String.ofList [d]) a, false) }
          | none =>
            Invocation.read dialect fuel
              { i with
                options :=
                  all.foldl (fun (o : Shell.Options) c => o.setLetter dialect c on) i.options
                given := i.given || all.contains 'c'
                fromInput := i.fromInput || all.contains 's' } rest
    | _ => { i with rest := a :: rest }

/-- What the larger shell says about how it is called. -/
def usage : String :=
  "Usage:\tbash [GNU long option] [option] ...\n\tbash [GNU long option] [option] script-file ...\n"
    ++ "GNU long options:\n"
    ++ String.join (["debug", "debugger", "dump-po-strings", "dump-strings", "help", "init-file",
      "login", "noediting", "noprofile", "norc", "posix", "pretty-print", "rcfile", "restricted",
      "verbose", "version"].map fun o => "\t--" ++ o ++ "\n")
    ++ "Shell options:\n\t-ilrsD or -c command or -O shopt_option\t\t(invocation only)\n"
    ++ "\t-abefhkmnptuvxBCEHPT or -o option\n"

def startShell (m : Machine) (dialect : Shell.Dialect) (pid : Nat) (directory : Place)
    (environment : List String) (arguments : List String) : Program :=
  let called := arguments.head?.getD "sh"
  let i := Invocation.read dialect (arguments.length + 1) {} (arguments.drop 1)
  let parent := ((m.proc? pid).map (·.parent)).getD hostPid
  let shell :=
    { freshShell dialect called pid parent directory environment with options := i.options }
  let run (origin text : String) : List Shell.Frame :=
    let script := Shell.Script.ofText dialect 1 text
    [.script script.lines script.fault origin]
  let refuse (message : String) (status : Nat) : Program :=
    .tool (.print [(2, Shell.rawOf message)] status)
  match i.unknown with
  | some (option, isName) =>
    match dialect, isName with
    | .posix, _ =>
      refuse (called ++ ": 0: Illegal option " ++ (if isName then "-o " else "") ++
        option ++ "\n") 2
    | .bash, true =>
      refuse (called ++ ": line 0: " ++ called ++ ": " ++ option ++ ": invalid option name\n") 2
    | .bash, false => refuse (called ++ ": " ++ option ++ ": invalid option\n" ++ usage) 2
  | none =>
    match i.given, i.rest with
    | true, [] =>
      refuse (dialect.choose (called ++ ": 0: -c requires an argument\n")
        (called ++ ": -c: option requires an argument\n")) 2
    | true, script :: rest =>
      .shell { shell with
        name := rest.head?.getD called, parameters := rest.drop 1
        yieldsLast := decide (dialect = .bash), isArgument := true
        frames := run "-c" script }
    | false, [] => .shell { shell with frames := [.input 1 []] }
    | false, file :: rest =>
      if i.fromInput then .shell { shell with parameters := file :: rest, frames := [.input 1 []] }
      else
        match m.tree.read (FileTree.path directory) ⟨Shell.rawOf file⟩, dialect with
        | .ok content, _ =>
          .shell { shell with
            name := file, parameters := rest, frames := run "" (Shell.textOf content) }
        | .error (.system .isDirectory), .posix => .tool (.print [] 0)
        | .error _, .posix => refuse (called ++ ": 0: cannot open " ++ file ++ ": No such file\n") 2
        | .error (.system .isDirectory), .bash =>
          refuse (file ++ ": " ++ file ++ ": Is a directory\n") 126
        | .error e, .bash =>
          refuse (called ++ ": " ++ file ++ ": " ++ Utility.describe e ++ "\n") 127

/-- A command that `env` and its like run: the environment, the directory and the words. -/
structure Wrapped where
  environment : List String
  directory : Place
  words : List String

/-- What a program that runs another one makes of its arguments; none if it runs nothing, and a text
for what is wrong. -/
def wrapped? (m : Machine) (directory : Place) (environment : List String) (name : String)
    (arguments : List String) : Except (String × Nat) Wrapped :=
  let fault {α : Type} (text : String) : Except (String × Nat) α :=
    .error (name ++ ": " ++ text ++ Utility.helpHint name ++ "\n", 125)
  match name with
  | "env" =>
    let grammar : Utility.Grammar :=
      { flags := "i0v", valued := "uCS", permutes := false
        long := [("ignore-environment", 'i'), ("unset", 'u'), ("chdir", 'C'),
          ("split-string", 'S'), ("null", '0')] }
    match Utility.Options.read grammar {} (arguments.map fun a => if a = "-" then "-i" else a) with
    | .error text => fault text
    | .ok o =>
      let split := (o.values 'S').flatMap fun t => (t.splitOn " ").filter (· ≠ "")
      let words := split ++ o.operands
      let assigned := words.takeWhile (·.contains '=')
      let kept := (if o.has 'i' then [] else environment).filter fun e =>
        !(o.values 'u').contains (splitEntry e).1
      let environment := assigned.foldl (fun (env : List String) e =>
        if env.any fun old => (splitEntry old).1 = (splitEntry e).1 then
          env.map fun old => if (splitEntry old).1 = (splitEntry e).1 then e else old
        else env ++ [e]) kept
      match o.value? 'C' with
      | none => .ok { environment, directory, words := words.drop assigned.length }
      | some d =>
        match m.tree.locate (FileTree.path directory) ⟨Shell.rawOf d⟩ with
        | .ok (place, .directory) =>
          .ok { environment, directory := place, words := words.drop assigned.length }
        | _ => .error ("env: cannot change directory to \x27" ++ d
            ++ "\x27: No such file or directory\n", 125)
  | "nice" =>
    match Utility.Options.read { flags := "", valued := "n", permutes := false } {} arguments with
    | .error text => fault text
    | .ok o => .ok { environment, directory, words := o.operands }
  | "stdbuf" =>
    match Utility.Options.read { flags := "", valued := "ioe", permutes := false } {} arguments with
    | .error text => fault text
    | .ok o =>
      let given := (o.value? 'o').elim [] fun v => ["_STDBUF_O=" ++ v]
      .ok { environment := environment ++ given, directory, words := o.operands }
  | _ =>
    .ok { environment, directory, words := arguments.filter fun a => a ≠ "--" }

/-- Whether a program runs another one in its place. -/
def wraps (name : String) : Bool :=
  ["env", "nice", "nohup", "setsid", "stdbuf"].contains name

/-- What a process runs when it is given an image, with its directory. A program can lead to another
one a few times over. -/
def Image.start (m : Machine) (pid : Nat) : (fuel : Nat) → Place → List String → Image →
    Program × Place
  | 0, directory, _, _ => (.tool (.print [] 126), directory)
  | fuel + 1, directory, environment, image =>
    let called := image.arguments.head?.getD image.utility
    match shellNamed? image.utility with
    | some dialect => (startShell m dialect pid directory environment image.arguments, directory)
    | none =>
      if wraps image.utility then
        let say (text : String) (status : Nat) : Program × Place :=
          (.tool (.print [(2, Shell.rawOf text)] status), directory)
        match wrapped? m directory environment image.utility (image.arguments.drop 1) with
        | .error (text, status) => say text status
        | .ok w =>
          match w.words with
          | [] =>
            if image.utility = "env" then
              (.tool (.print [(1, Shell.rawOf (String.join (w.environment.map (· ++ "\n"))))] 0),
                directory)
            else say (called ++ ": missing operand" ++ Utility.helpHint called ++ "\n") 125
          | name :: arguments =>
            let searchPath :=
              (Utility.Words.valueIn w.environment "PATH").getD defaultSearchPath
            match findImage m w.directory searchPath name (name :: arguments) with
            | .ok image => Image.start m pid fuel w.directory w.environment image
            | .error fault =>
              say (called ++ ": \x27" ++ name ++ "\x27: " ++ fault.description ++ "\n")
                (if fault = .noEntry then 127 else 126)
      else
        let named := if image.utility = "test" || image.utility = "[" || image.utility = "printf"
          then called else image.utility
        let call : Utility.Call :=
          { name := named, arguments := image.arguments.drop 1, environment, directory
            tree := m.tree }
        (.tool (Tool.ofCall m.clock call), directory)

/-- How often a program can lead to another one. -/
def wrappingDepth : Nat := 20

/-- Gives a process an image to run. Streams that were kept for later are closed, and signals that
the program handled have their usual effect again. -/
def execute (m : Machine) (p : Proc) (environment : List String) (image : Image) : Machine :=
  let (program, directory) := Image.start m p.pid wrappingDepth p.directory environment image
  m.modify p.pid fun p =>
    { p with program, directory, pending := [], streams := p.streams.filter (·.1 < 1000) }

end RLanguageHost.Machine
