import RLanguageHost.Scope.Basic

/-!
# The scope of a document

Six rules decide which scope a document belongs to. They are asked in order, and the first that does
not pass decides: either no server is to serve the document, or it names the scope.

Only files and untitled buffers and cells are served, and only in the languages of the server,
except that a file outside every workspace folder is served in any language.
-/

namespace RLanguageHost

/-- What the rules look at. -/
structure Circumstances where
  document : Document
  /-- The workspace folder around the document. -/
  folder : Option Folder
  /-- The directory for untitled buffers. -/
  home : FilePath
  deriving Repr

/-- What a rule says. -/
inductive Verdict where
  /-- No server serves the document. -/
  | ignore
  | belongs (scope : Scope)
  /-- The rule does not apply. -/
  | pass
  deriving Repr, DecidableEq

/-- A rule of the decision table. -/
abbrev Rule := Circumstances → Verdict

namespace Rule

def filter (scheme : String) (language pattern : Option String) : Filter :=
  { scheme := some scheme, language, pattern }

/-- Ignores documents of unknown schemes. -/
def supportedScheme : Rule := fun c =>
  if c.document.isFile || c.document.isUntitled || c.document.isCell then .pass else .ignore

/-- Ignores documents of other languages, except files outside every folder. -/
def targetLanguage : Rule := fun c =>
  if c.document.hasTargetLanguage then .pass
  else if c.document.isFile && c.folder.isNone then .pass
  else .ignore

/-- A cell belongs to its notebook. -/
def notebookCell : Rule := fun c =>
  if !c.document.isCell then .pass
  else
    match c.document.filePath? with
    | none => .ignore
    | some path =>
      .belongs
        { key := .notebook path
          kind := .notebook
          selector := [filter c.document.uri.scheme (some rLanguage) (some path.text)]
          workingDirectory := path.directory
          folder := c.folder }

def patternBelow (directory : FilePath) : String :=
  directory.text ++ "/**/*"

/-- Everything else in a workspace folder belongs to the folder. -/
def workspaceFolder : Rule := fun c =>
  match c.folder with
  | none => .pass
  | some folder =>
    match folder.path? with
    | none => .ignore
    | some directory =>
      .belongs
        { key := .ofFolder folder
          kind := .workspaceFolder
          selector :=
            [filter Uri.fileScheme (some rLanguage) (some (patternBelow directory)),
              filter Uri.fileScheme (some rmdLanguage) (some (patternBelow directory))]
          workingDirectory := directory
          folder := some folder }

/-- All untitled buffers belong together. -/
def untitledBuffer : Rule := fun c =>
  if !c.document.isUntitled then .pass
  else
    .belongs
      { key := .untitled
        kind := .untitled
        selector :=
          [filter untitledScheme (some rLanguage) none,
            filter untitledScheme (some rmdLanguage) none]
        workingDirectory := c.home
        folder := none }

/-- A file outside every folder is a scope of its own. -/
def strayFile : Rule := fun c =>
  if !c.document.isFile then .pass
  else
    match c.document.filePath? with
    | none => .ignore
    | some path =>
      .belongs
        { key := .ofUri c.document.uri
          kind := .strayFile
          selector := [filter Uri.fileScheme none (some path.text)]
          workingDirectory := path.directory
          folder := none }

/-- The rules in the order in which they are asked. -/
def table : List Rule :=
  [supportedScheme, targetLanguage, notebookCell, workspaceFolder, untitledBuffer, strayFile]

/-- What the first rule that applies says; `pass` if none does. -/
def decide (rules : List Rule) (c : Circumstances) : Verdict :=
  match rules with
  | [] => .pass
  | rule :: rest =>
    match rule c with
    | .pass => decide rest c
    | verdict => verdict

end Rule

def Verdict.scope? : Verdict → Option Scope
  | .belongs scope => some scope
  | _ => none

/-- The scope of a document that lies in the given workspace folder, if any. -/
def resolve (home : FilePath) (d : Document) (folder : Option Folder) : Option Scope :=
  (Rule.decide Rule.table { document := d, folder, home }).scope?

end RLanguageHost
