import RLanguageHost.Decimal.Word
import RLanguageHost.Files.Tree
import RLanguageHost.Settings
import RLanguageHost.Workspace

/-!
# The command line

Options take one value, either as the next word or after an equals sign. A next word that starts
with a hyphen is not taken as a value, except a hyphen alone. All options but the workspace folder
are given at most once.

Words are read from the left and the first fault wins. A fault of a value that is a word of its own
shows when the next option or the end of the line is reached; all other faults show at once.
-/

namespace RLanguageHost.Settings

def ofFile (tree : FileTree) (directory path : FilePath) : Except Error Settings :=
  match tree.readText directory path with
  | .error failure => .error (.read path.text failure.message)
  | .ok text => ofText text

end RLanguageHost.Settings

namespace RLanguageHost

structure CommandLine where
  settings : Option FilePath := none
  rPath : Option String := none
  workspaceFolders : List FilePath := []
  logLevel : Option String := none
  logFile : Option FilePath := none
  connectTimeoutSeconds : Option Nat := none
  deriving Repr, DecidableEq, Inhabited

namespace CommandLine

inductive Refusal where
  /-- It asks for help instead. -/
  | help
  /-- It asks for the version instead. -/
  | version
  /-- A word is no option and no value. -/
  | unknownArgument
  /-- A value is missing or empty. -/
  | invalidValue
  /-- A value is no number. -/
  | notANumber
  /-- An option is given twice. -/
  | repeated
  /-- A value is given to a word that takes none. -/
  | needlessValue
  deriving Repr, DecidableEq

/-- The options that take a value. -/
inductive Name where
  | settings
  | rPath
  | workspaceFolder
  | logLevel
  | logFile
  | connectTimeout
  deriving Repr, DecidableEq

namespace Name

def all : List Name :=
  [.settings, .rPath, .workspaceFolder, .logLevel, .logFile, .connectTimeout]

/-- The word of an option, after two hyphens. -/
def word : Name → String
  | .settings => "settings"
  | .rPath => "r-path"
  | .workspaceFolder => "workspace-folder"
  | .logLevel => "log-level"
  | .logFile => "log-file"
  | .connectTimeout => "connect-timeout-secs"

/-- What messages call the value of an option. -/
def valueName : Name → String
  | .settings | .logFile => "FILE"
  | .rPath => "PATH"
  | .workspaceFolder => "DIR"
  | .logLevel => "LEVEL"
  | .connectTimeout => "SECS"

def ofWord? (w : String) : Option Name :=
  all.find? (·.word = w)

end Name

/-- The words that ask for something else than a run. -/
inductive Flag where
  | help
  | version
  deriving Repr, DecidableEq

namespace Flag

/-- The flag of a word, after two hyphens. -/
def ofWord? (w : String) : Option Flag :=
  if w = "help" then some .help else if w = "version" then some .version else none

/-- The flag of a letter, after one hyphen. -/
def ofLetter? (c : Char) : Option Flag :=
  if c = 'h' then some .help else if c = 'V' then some .version else none

def refusal : Flag → Refusal
  | .help => .help
  | .version => .version

end Flag

def path (value : String) : Except Refusal FilePath :=
  if value = "" then .error .invalidValue else .ok (.ofString value)

def put (line : CommandLine) (name : Name) (value : String) : Except Refusal CommandLine := do
  match name with
  | .settings => return { line with settings := some (← path value) }
  | .rPath => return { line with rPath := some value }
  | .workspaceFolder =>
    return { line with workspaceFolders := line.workspaceFolders ++ [← path value] }
  | .logLevel => return { line with logLevel := some value }
  | .logFile => return { line with logFile := some (← path value) }
  | .connectTimeout =>
    match Decimal.word? value.toList with
    | some n => return { line with connectTimeoutSeconds := some n }
    | none => .error .notANumber

/-- How far the words have been read. -/
structure Progress where
  line : CommandLine := {}
  /-- The options that have been given. -/
  given : List Name := []
  /-- The last option, and its value if one has been found. -/
  pending : Option (Name × Option String) := none
  deriving Repr

namespace Progress

/-- Takes the value of an option: the option is not repeated and the value is good, in that
order. -/
def accept (p : Progress) (name : Name) (value : String) : Except Refusal Progress :=
  if name ≠ .workspaceFolder ∧ name ∈ p.given then .error .repeated
  else do return { line := ← p.line.put name value, given := name :: p.given, pending := none }

def settle (p : Progress) : Except Refusal Progress :=
  match p.pending with
  | none => .ok p
  | some (_, none) => .error .invalidValue
  | some (name, some value) => p.accept name value

/-- Starts an option whose value is to be the next word, after settling the last option. -/
def start (p : Progress) (name : Name) : Except Refusal Progress := do
  return { ← p.settle with pending := some (name, none) }

end Progress

/-- The parts of a word before and after its first equals sign. -/
def splitEquals (chars : List Char) : List Char × Option (List Char) :=
  (chars.takeWhile (· ≠ '='), (chars.dropWhile (· ≠ '=')).tail?)

/-- Reads a word that starts with two hyphens, without them. -/
def readLong (p : Progress) (chars : List Char) : Except Refusal Progress :=
  let (word, value) := splitEquals chars
  match Name.ofWord? (String.ofList word), Flag.ofWord? (String.ofList word), value with
  | some name, _, none => p.start name
  | some name, _, some value => do (← p.settle).accept name (String.ofList value)
  | none, some flag, none => do
    let _ ← p.settle
    .error flag.refusal
  | none, some _, some _ => .error .needlessValue
  | none, none, _ => .error .unknownArgument

def readWord (p : Progress) (word : String) : Except Refusal Progress :=
  match word.toList with
  | '-' :: '-' :: rest => readLong p rest
  | '-' :: letter :: _ =>
    match Flag.ofLetter? letter with
    | some flag => do
      let _ ← p.settle
      .error flag.refusal
    | none => .error .unknownArgument
  | _ =>
    match p.pending with
    | some (name, none) => .ok { p with pending := some (name, some word) }
    | _ => .error .unknownArgument

/-- Reads the words of a command line. After the word `--` every word is one too many. -/
def readWords (p : Progress) : List String → Except Refusal Progress
  | [] => p.settle
  | word :: rest =>
    if word = "--" then
      if rest.isEmpty then p.settle else .error .unknownArgument
    else
      match readWord p word with
      | .error refusal => .error refusal
      | .ok p => readWords p rest

def parse (words : List String) : Except Refusal CommandLine :=
  (·.line) <$> readWords {} words

def usage : String :=
  "Usage: r-language-host [OPTIONS]\n\nOptions:" ++
    String.join (Name.all.map fun n => "\n  --" ++ n.word ++ " <" ++ n.valueName ++ ">") ++
    "\n  -h, --help\n  -V, --version"

/-- The settings that a command line leads to: those of the file, with the R path of the command
line. -/
def loadSettings (line : CommandLine) (tree : FileTree) (directory : FilePath) :
    Except Settings.Error Settings := do
  let settings ←
    match line.settings with
    | some path => Settings.ofFile tree directory path
    | none => pure {}
  let settings := { settings with path := line.rPath.or settings.path }
  settings.validate
  return settings

def workspace (line : CommandLine) (directory : FilePath) : Workspace :=
  .ofFolders (line.workspaceFolders.filterMap fun p => Folder.ofPath? (directory.append p))

end CommandLine

end RLanguageHost
