import RLanguageHost.Files.Tree

/-!
# Log configuration

How much the host logs, where to and in which form. The environment decides, with a level of `info`
on the standard error stream where it says nothing; the command line has the last word.

Several hosts can share one setting for the log file: on demand each puts its process number into
the name, before the extension.
-/

namespace RLanguageHost

namespace FilePath

/-- The part of a file name before its last dot, and the part after it. A dot at the start of a name
does not separate. -/
def splitName (name : Bytes) : Bytes × Option Bytes :=
  let rest := name.reverse.dropWhile (· ≠ dot)
  match rest with
  | [] => (name, none)
  | _ :: stem =>
    if stem.isEmpty then (name, none)
    else (stem.reverse, some (name.drop rest.length))

/-- The path with another last component. -/
def withFileName (p : FilePath) (name : Bytes) : FilePath :=
  match p.fileName? with
  | some _ => ((p.parent?).getD p).append ⟨name⟩
  | none => p.append ⟨name⟩

end FilePath

namespace Log

structure Config where
  level : String := "info"
  file : Option FilePath := none
  json : Bool := false
  deriving Repr, DecidableEq, Inhabited

namespace Config

/-- The variables of the environment that configure the log. -/
inductive Variable where
  | level
  | file
  | unique
  | json
  deriving Repr, DecidableEq

def Variable.name : Variable → String
  | .level => "RUST_LOG"
  | .file => "R_LSP_LOG_FILE"
  | .unique => "R_LSP_LOG_UNIQUE"
  | .json => "R_LSP_LOG_JSON"

/-- The path of a log file with a process number before its extension. -/
def uniquePath (path : FilePath) (pid : String) : FilePath :=
  match path.fileName? with
  | none => path
  | some name =>
    let (stem, extension) := FilePath.splitName name
    let stem := Utf8.encode (Utf8.lossy stem)
    let pid := bytesOf pid
    let ending :=
      match extension with
      | some ext => if ext.isEmpty || (Utf8.decode? ext).isNone then [] else FilePath.dot :: ext
      | none => []
    path.withFileName (stem ++ FilePath.dot :: pid ++ ending)

/-- The configuration that the environment gives. A switch is on only if its value is `true`. -/
def ofEnvironment (value : Variable → Option String) (pid : String) : Config where
  level := (value .level).getD "info"
  file := (value .file).map fun path =>
    if value .unique = some "true" then uniquePath (.ofString path) pid else .ofString path
  json := value .json = some "true"

/-- The configuration with the values that the command line gives. -/
def override (config : Config) (level : Option String) (file : Option FilePath) : Config where
  level := level.getD config.level
  file := file.or config.file
  json := config.json

def openFile (config : Config) (tree : FileTree) (directory : FilePath) :
    Except Failure (Option Place) :=
  config.file.mapM fun path => (·.1) <$> tree.locateForWriting directory path

end Config

end Log

end RLanguageHost
