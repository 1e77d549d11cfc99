import RLanguageHost.Document
import RLanguageHost.Glob.Matcher

/-!
# Scopes

A scope is what one language server process serves: a notebook, a workspace folder, all untitled
buffers together, or a single file. Its key tells it apart from other scopes.

Its selector says which documents the process claims. A selector is a list of filters, any of which
may claim a document. A filter claims a document if every field that it sets fits: the scheme, the
language, and a glob pattern over the file's path. A pattern that is no glob is compared with the
path as a path.
-/

namespace RLanguageHost

/-- What a document must be like. -/
structure Filter where
  scheme : Option String
  language : Option String
  pattern : Option String
  deriving Repr, DecidableEq, Inhabited

/-- Filters, one of which has to fit. -/
abbrev Selector := List Filter

def patternMatches (pattern : String) (path : FilePath) : Bool :=
  match Glob.parse? pattern with
  | some tokens => Glob.isMatch tokens path.bytes
  | none => FilePath.Same (.ofString pattern) path

def Filter.matches (filter : Filter) (d : Document) : Bool :=
  (match filter.scheme with
    | some scheme => scheme = d.uri.scheme
    | none => true) &&
  (match filter.language with
    | some language => language = d.language
    | none => true) &&
  match filter.pattern with
  | some pattern => d.filePath?.any (patternMatches pattern)
  | none => true

def Selector.matches (selector : Selector) (d : Document) : Bool :=
  selector.any (·.matches d)

/-- The identity of a scope. -/
structure ScopeKey where
  text : String
  deriving Repr, DecidableEq, Inhabited

namespace ScopeKey

def untitled : ScopeKey :=
  ⟨"untitled"⟩

/-- What the key of a notebook begins with. -/
def notebookMark : String := "vscode-notebook:"

def notebook (path : FilePath) : ScopeKey :=
  ⟨notebookMark ++ path.text⟩

/-- The key of a file or folder. -/
def ofUri (uri : Uri) : ScopeKey :=
  ⟨uri.text⟩

def ofFolder (folder : Folder) : ScopeKey :=
  ofUri folder.uri

/-- The key of the scope that a document has for itself, in no workspace folder. -/
def ofClosed (d : Document) : ScopeKey :=
  if d.isUntitled then untitled
  else if d.isCell then
    match d.filePath? with
    | some path => notebook path
    | none => ofUri d.uri
  else ofUri d.uri

end ScopeKey

inductive ScopeKind where
  | notebook
  | workspaceFolder
  | untitled
  | strayFile
  deriving Repr, DecidableEq, Inhabited

/-- What one language server process serves. -/
structure Scope where
  key : ScopeKey
  kind : ScopeKind
  /-- The documents that the server claims. -/
  selector : Selector
  /-- The directory that the server runs in. -/
  workingDirectory : FilePath
  folder : Option Folder
  deriving Repr, DecidableEq, Inhabited

end RLanguageHost
