import RLanguageHost.FilePath
import RLanguageHost.Files.Failure

/-!
# File trees

The files and directories that programs see. An entry lies at a place, the list of names that leads
to it from the root; the root itself is always a directory.

A path is followed name by name. Each name, also an empty one, `.` and `..`, asks for a directory to
look in, so that a slash after the name of a file is an error. A path that leads nowhere is told
apart from one that leads through a file.
-/

namespace RLanguageHost

/-- Where an entry of a file tree lies: the names from the root down to it. -/
abbrev Place := List Bytes

inductive Entry where
  | directory
  | file (content : Bytes) (executable : Bool)
  deriving Repr, DecidableEq, Inhabited

/-- Files and directories at their places. Of several entries at one place the first counts. -/
structure FileTree where
  entries : List (Place × Entry) := []
  deriving Repr, DecidableEq, Inhabited

namespace FileTree

def entry? (tree : FileTree) (place : Place) : Option Entry :=
  if place = [] then some .directory else tree.entries.lookup place

def put (tree : FileTree) (place : Place) (entry : Entry) : FileTree :=
  ⟨(place, entry) :: tree.entries.filter (·.1 ≠ place)⟩

def longestName : Nat := 255

/-- The longest path that a system call takes. -/
def longestPath : Nat := 4095

def follow (tree : FileTree) (place : Place) : List Bytes → Except SystemFault (Place × Entry)
  | [] =>
    match tree.entry? place with
    | none => .error .noEntry
    | some entry => .ok (place, entry)
  | part :: parts =>
    match tree.entry? place with
    | none => .error .noEntry
    | some (.file ..) => .error .notDirectory
    | some .directory =>
      if FilePath.isFiller part then tree.follow place parts
      else if part = [FilePath.dot, FilePath.dot] then tree.follow place.dropLast parts
      else if longestName < part.length then .error .nameTooLong
      else tree.follow (place ++ [part]) parts

def parts (path : FilePath) : List Bytes :=
  FilePath.splitOn FilePath.slash path.bytes

/-- Whether a system call takes a path, whatever it leads to. -/
def acceptable (path : FilePath) : Except Failure Unit :=
  if path.bytes.contains 0 then .error .nulInName
  else if path.bytes = [] then .error (.system .noEntry)
  else if longestPath < path.bytes.length then .error (.system .nameTooLong)
  else .ok ()

def locate (tree : FileTree) (directory path : FilePath) : Except Failure (Place × Entry) := do
  acceptable path
  (tree.follow [] (parts (directory.append path))).mapError .system

def isFile (tree : FileTree) (directory path : FilePath) : Bool :=
  match tree.locate directory path with
  | .ok (_, .file ..) => true
  | _ => false

def read (tree : FileTree) (directory path : FilePath) : Except Failure Bytes := do
  match ← tree.locate directory path with
  | (_, .directory) => .error (.system .isDirectory)
  | (_, .file content _) => .ok content

def readText (tree : FileTree) (directory path : FilePath) : Except Failure String := do
  match Utf8.decode? (← tree.read directory path) with
  | none => .error .notText
  | some text => .ok (String.ofList text)

/-- The place of a file that may be written, with what it holds. A missing file will be created if
the directory is there. -/
def locateForWriting (tree : FileTree) (directory path : FilePath) :
    Except Failure (Place × Entry) := do
  acceptable path
  let steps := parts (directory.append path)
  let (place, _) ← (tree.follow [] steps.dropLast).mapError .system
  let name := steps.getLast?.getD []
  if name = [] then .error (.system .isDirectory)
  else
    match tree.follow place [name] with
    | .ok (_, .directory) => .error (.system .isDirectory)
    | .ok (found, entry) => .ok (found, entry)
    | .error .noEntry => .ok (place ++ [name], .file [] false)
    | .error fault => .error (.system fault)

/-- Appends to a file that `locateForWriting` found. -/
def appendAt (tree : FileTree) (place : Place) (more : Bytes) : FileTree :=
  match tree.entry? place with
  | some (.file content executable) => tree.put place (.file (content ++ more) executable)
  | _ => tree.put place (.file more false)

/-- Empties a file that `locateForWriting` found. -/
def emptyAt (tree : FileTree) (place : Place) : FileTree :=
  match tree.entry? place with
  | some (.file _ executable) => tree.put place (.file [] executable)
  | _ => tree.put place (.file [] false)

/-- The place that a path from the root names, without following it. -/
def placeOf (path : FilePath) : Place :=
  (parts path).filter (· ≠ [])

/-- Puts a directory at a place, and directories above it where there are none. -/
def makeDirectories (tree : FileTree) (place : Place) : FileTree :=
  (List.range place.length).foldl (fun tree n =>
    let above := place.take (n + 1)
    if (tree.entry? above).isSome then tree else tree.put above .directory) tree

/-- The start of a file that names the program to run it with. -/
def scriptMark : Bytes := bytesOf "#!"

/-- Puts a file at a path from the root, and directories above it where there are none. A file that
names the program to run it with is executable. A path that ends in a slash makes a directory. -/
def install (tree : FileTree) (path : FilePath) (content : Bytes) : FileTree :=
  let place := placeOf path
  if path.bytes.getLast? = some FilePath.slash then tree.makeDirectories place
  else
    (tree.makeDirectories place.dropLast).put place
      (.file content (scriptMark.isPrefixOf content))

end FileTree

end RLanguageHost
