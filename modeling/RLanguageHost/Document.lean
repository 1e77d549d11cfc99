import RLanguageHost.Text.Blank
import RLanguageHost.Uri.Location
import RLanguageHost.Uri.Parser

/-!
# Documents and folders

What an editor tells about an open document, its URI and its language, and about a folder of its
workspace.

Cells of a notebook are documents of their own; the path in a cell's URI is that of the notebook, so
two cells belong together if they have the same scheme and the same path.
-/

namespace RLanguageHost

/-- The scheme of buffers that were never saved. -/
def untitledScheme : String := "untitled"

def cellSchemes : List String := ["vscode-notebook-cell", "notebook-cell"]

def rLanguage : String := "r"

/-- The language of R Markdown sources. -/
def rmdLanguage : String := "rmd"

/-- Whether the language server is made for a language. -/
def isTargetLanguage (language : String) : Bool :=
  language = rLanguage || language = rmdLanguage

/-- A document as the editor names it. -/
structure Document where
  uri : Uri
  language : String
  deriving Repr, DecidableEq, Inhabited

namespace Document

/-- Whether the document is a buffer that was never saved. -/
def isUntitled (d : Document) : Bool :=
  d.uri.scheme = untitledScheme

def isCell (d : Document) : Bool :=
  cellSchemes.contains d.uri.scheme

def isFile (d : Document) : Bool :=
  d.uri.scheme = Uri.fileScheme

/-- Whether the language server is made for the document's language. -/
def hasTargetLanguage (d : Document) : Bool :=
  isTargetLanguage d.language

/-- The file behind the document; for a cell, its notebook. -/
def filePath? (d : Document) : Option FilePath :=
  d.uri.filePath?

def sameNotebook (d e : Document) : Bool :=
  d.isCell && e.uri.scheme = d.uri.scheme &&
    match d.filePath?, e.filePath? with
    | some p, some q => FilePath.Same q p
    | _, _ => false

end Document

structure Folder where
  uri : Uri
  name : String
  deriving Repr, DecidableEq, Inhabited

namespace Folder

/-- The folder of an absolute path, named after its last component. -/
def ofPath? (p : FilePath) : Option Folder :=
  (Uri.ofFilePath? p).map fun uri =>
    { uri, name := String.ofList (Utf8.lossy (p.fileName?.getD [])) }

/-- Whether a character is a slash or backslash. -/
def isSeparator (c : Char) : Bool :=
  c == '/' || c == '\\'

/-- The directory of the folder, without separators at its end unless it consists of them. -/
def path? (f : Folder) : Option FilePath :=
  f.uri.filePath?.map fun p =>
    let trimmed := Text.dropEndWhile isSeparator p.text.toList
    if trimmed.isEmpty then p else ⟨Utf8.encode trimmed⟩

end Folder

end RLanguageHost
