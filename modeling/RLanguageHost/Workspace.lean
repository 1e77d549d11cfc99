import RLanguageHost.Scope.Rule

/-!
# Workspaces

The folders of an editor's workspace, in the order in which they were added, and its open documents,
in the order of their URIs. No two folders and no two documents have the same URI.

The folder around a file is the innermost one: of the folders whose directory contains the file, the
one with the most components, and of several such the one added last.
-/

namespace RLanguageHost

/-- What is open in an editor. -/
structure Workspace where
  folders : List Folder := []
  documents : List Document := []
  deriving Repr, DecidableEq, Inhabited

namespace Workspace

/-- Adds a folder unless it is known. -/
def addFolder (w : Workspace) (folder : Folder) : Workspace :=
  if w.folders.any (·.uri.text = folder.uri.text) then w
  else { w with folders := w.folders ++ [folder] }

def hasFolder (w : Workspace) (uri : Uri) : Bool :=
  w.folders.any (·.uri.text = uri.text)

def removeFolder (w : Workspace) (uri : Uri) : Workspace :=
  { w with folders := w.folders.filter (·.uri.text ≠ uri.text) }

/-- Puts a document into documents in the order of their URIs, in the place of one with its URI. -/
def insertDocument (d : Document) : List Document → List Document
  | [] => [d]
  | e :: rest =>
    if d.uri.text < e.uri.text then d :: e :: rest
    else if d.uri.text = e.uri.text then d :: rest
    else e :: insertDocument d rest

def openDocument (w : Workspace) (d : Document) : Workspace :=
  { w with documents := insertDocument d w.documents }

def document? (w : Workspace) (uri : Uri) : Option Document :=
  w.documents.find? (·.uri.text = uri.text)

def closeDocument (w : Workspace) (uri : Uri) : Workspace :=
  { w with documents := w.documents.filter (·.uri.text ≠ uri.text) }

def ofFolders (folders : List Folder) : Workspace :=
  folders.foldl addFolder {}

/-- The directories of the folders around a path, each with its folder. -/
def enclosing (folders : List Folder) (path : FilePath) : List (FilePath × Folder) :=
  (folders.filterMap fun f => f.path?.map (·, f)).filter fun (directory, _) =>
    path.within directory

/-- The deeper of two directories, the second of equally deep ones. -/
def deeper (a b : FilePath × Folder) : FilePath × Folder :=
  if b.1.components.length < a.1.components.length then a else b

/-- The deepest of several directories. -/
def innermost? : List (FilePath × Folder) → Option (FilePath × Folder)
  | [] => none
  | first :: rest => some (rest.foldl deeper first)

/-- The innermost folder around a `file` URI. -/
def folderFor? (w : Workspace) (uri : Uri) : Option Folder :=
  if uri.scheme ≠ Uri.fileScheme then none
  else
    match uri.filePath? with
    | none => none
    | some path => (innermost? (enclosing w.folders path)).map (·.2)

def resolve (w : Workspace) (home : FilePath) (d : Document) : Option Scope :=
  RLanguageHost.resolve home d (w.folderFor? d.uri)

end Workspace

end RLanguageHost
