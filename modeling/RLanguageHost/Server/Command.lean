import RLanguageHost.Files.Tree
import RLanguageHost.Settings

/-!
# Server commands

The command that starts a language server: the R program, the arguments of the settings, two fixed
flags, and an expression that runs the server on its standard streams or on a port.

The program that runs as R is the one that the settings name, else the one below the home of the R
installation, else whatever is found under the name `R`.
-/

namespace RLanguageHost.Server

/-- The name under which R is looked up when nothing else is known. -/
def defaultProgram : String := "R"

/-- The program of the R installation with a home directory. -/
def programAt (home : FilePath) : FilePath :=
  (home.append (.ofString "bin")).append (.ofString defaultProgram)

/-- The program to run as R. The installation's program counts only if it is a file. -/
def program (tree : FileTree) (directory : FilePath) (home : Option FilePath)
    (settings : Settings) : String :=
  match settings.path with
  | some path => if Text.isBlankString path then installed else path
  | none => installed
where
  installed : String :=
    match home with
    | some home =>
      if tree.isFile directory (programAt home) then (programAt home).text else defaultProgram
    | none => defaultProgram

/-- How the host talks to a server. -/
inductive Link where
  /-- Over the server's standard streams. -/
  | stdio
  /-- Over a connection that the server opens to a port of this machine. -/
  | loopback
  deriving Repr, DecidableEq, Inhabited

def Link.name : Link → String
  | .stdio => "stdio"
  | .loopback => "loopback"

def Link.ofFlag (useStdio : Bool) : Link :=
  if useStdio then .stdio else .loopback

/-- The variable of the environment that holds the locale. -/
def langVariable : String := "LANG"

/-- The flags that every server is started with. -/
def fixedFlags : List String := ["--quiet", "--slave"]

/-- What it takes to start a language server. -/
structure Command where
  program : String
  /-- The arguments before the expression. -/
  baseArgs : List String
  debug : Bool
  /-- The locale to force on the server; `none` leaves the inherited one. -/
  lang : Option String
  workingDirectory : FilePath
  deriving Repr, DecidableEq, Inhabited

namespace Command

def ofSettings (program : String) (settings : Settings) (workingDirectory : FilePath)
    (inherited : Option String) : Command where
  program := program
  baseArgs := settings.args ++ fixedFlags
  debug := settings.debug
  lang := settings.effectiveLang inherited
  workingDirectory := workingDirectory

def expression (command : Command) (port : Option Nat) : String :=
  match port, command.debug with
  | some port, false => "languageserver::run(port=" ++ toString port ++ ")"
  | some port, true => "languageserver::run(port=" ++ toString port ++ ",debug=TRUE)"
  | none, false => "languageserver::run()"
  | none, true => "languageserver::run(debug=TRUE)"

def arguments (command : Command) (port : Option Nat) : List String :=
  command.baseArgs ++ ["-e", command.expression port]

/-- The variables that the server's environment overrides. -/
def environment (command : Command) : List (String × String) :=
  (command.lang.map (langVariable, ·)).toList

end Command

/-- The command and link for a working directory, if the settings are valid. -/
def commandFor (findProgram : Settings → String) (settings : Settings)
    (workingDirectory : FilePath) (inherited : Option String) :
    Except Settings.Error (Command × Link) := do
  settings.validate
  return (.ofSettings (findProgram settings) settings workingDirectory inherited,
    .ofFlag settings.useStdio)

end RLanguageHost.Server
