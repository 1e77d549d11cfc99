import RLanguageHost.FilePath
import RLanguageHost.Uri.Basic
import RLanguageHost.Uri.Path

/-!
# URIs and file paths

The file path behind a URI, and the `file` URI of a path. A `file` URI without a host names its
path. The other hierarchical URIs, those of notebook cells above all, lend their path to a `file`
URI. An opaque URI has no path.

A path that ends in a letter and a colon or bar gets a slash at its end, as a drive would.
-/

namespace RLanguageHost.Uri

/-- Whether the last two bytes are a letter and a colon or bar, after at least one byte. -/
def endsInDrive (bs : Bytes) : Bool :=
  match bs.reverse with
  | mark :: letter :: _ :: _ =>
    (mark == 0x3A || mark == 0x7C) &&
    ((0x41 ≤ letter && letter ≤ 0x5A) || (0x61 ≤ letter && letter ≤ 0x7A))
  | _ => false

def pathBytes (path : List Char) : Bytes :=
  let bs := (segments (· == '/') (path.drop 1)).flatMap fun s => FilePath.slash :: decode s
  if endsInDrive bs then bs ++ [FilePath.slash] else bs

def fileScheme : String := "file"

def filePath? (uri : Uri) : Option FilePath :=
  if uri.scheme = fileScheme then
    if uri.authority = some "" then some ⟨pathBytes uri.path.toList⟩ else none
  else if uri.isHierarchical then some ⟨pathBytes (asFilePath uri.path.toList)⟩
  else none

def nameOf? : FilePath.Component → Option Bytes
  | .name bytes => some bytes
  | .parent => some [FilePath.dot, FilePath.dot]
  | _ => none

def pathOfNames (names : List Bytes) : List Char :=
  if names.isEmpty then ['/']
  else names.flatMap fun name => '/' :: encodeBytes inSegmentSet name

def ofFilePath? (p : FilePath) : Option Uri :=
  if p.isAbsolute then
    some
      { scheme := fileScheme
        authority := some ""
        path := String.ofList (pathOfNames (p.components.filterMap nameOf?))
        query := none
        fragment := none }
  else none

end RLanguageHost.Uri
