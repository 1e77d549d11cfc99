import RLanguageHost.Uri.Percent

/-!
# Paths of URIs

A hierarchical path is read segment by segment. The segment `.` is dropped and `..` takes the
segment before it away, in all their spellings with escaped dots, unless that segment is a drive
letter. Characters that a path cannot hold are escaped; tabs and line breaks count for nothing.
-/

namespace RLanguageHost.Uri

/-- How a scheme's URIs are read. -/
inductive SchemeKind where
  /-- The scheme `file`. -/
  | file
  /-- A scheme of the web, whose URIs have a host. -/
  | web
  | other
  deriving Repr, DecidableEq

/-- Whether backslashes count as slashes. -/
def SchemeKind.isSpecial (kind : SchemeKind) : Bool :=
  kind ≠ .other

/-- Whether a segment is a letter and a colon or bar. -/
def isDriveLetter (segment : List Char) : Bool :=
  match segment with
  | [a, b] => a.isAlpha && (b == ':' || b == '|')
  | _ => false

/-- Reads a segment's escaped dots as dots. -/
def unescapeDots : List Char → List Char
  | '%' :: '2' :: 'e' :: rest => '.' :: unescapeDots rest
  | '%' :: '2' :: 'E' :: rest => '.' :: unescapeDots rest
  | c :: rest => c :: unescapeDots rest
  | [] => []

/-- Whether a segment stands for the place itself. -/
def isSingleDot (segment : List Char) : Bool :=
  unescapeDots segment = ['.']

/-- Whether a segment stands for the place above. -/
def isDoubleDot (segment : List Char) : Bool :=
  unescapeDots segment = ['.', '.']

/-- The parts of a text between slashes. -/
def segments (isSlash : Char → Bool) : List Char → List (List Char)
  | [] => [[]]
  | c :: rest =>
    if isSlash c then [] :: segments isSlash rest
    else
      match segments isSlash rest with
      | [] => [[c]]
      | segment :: more => (c :: segment) :: more

/-- Segments without the last one, which stays if it is a drive letter. -/
def popSegment (done : List (List Char)) : List (List Char) :=
  match done.getLast? with
  | some segment => if isDriveLetter segment then done else done.dropLast
  | none => done

/-- Whether a character counts for nothing in a URI: a tab or a line break. -/
def isSkipped (c : Char) : Bool :=
  c = '\t' || c = '\n' || c = '\r'

/-- The characters of a text that count. -/
def visible (text : List Char) : List Char :=
  text.filter (!isSkipped ·)

/-- The first character of a text that counts, and the text after it. -/
def nextVisible? (text : List Char) : Option (Char × List Char) :=
  match text.dropWhile isSkipped with
  | [] => none
  | c :: rest => some (c, rest)

/-- A drive letter with a colon and what comes after it, where a tab or a line break cuts the two
apart. -/
def cutDrive? (segment : List Char) : Option (List Char × List Char) := do
  let (letter, rest) ← nextVisible? segment
  let (colon, rest) ← nextVisible? rest
  if letter.isAlpha && colon = ':' && rest.head?.any isSkipped && !(visible rest).isEmpty then
    some ([letter, colon], visible rest)
  else none

/-- Segments that have been read. -/
structure Resolved where
  /-- The segments that a slash follows. -/
  done : List (List Char) := []
  /-- What comes after the last slash. -/
  last : List Char := []
  /-- Whether the first segment names a drive. -/
  onDrive : Bool := false

/-- Reads the next segment. At the start of a `file` path a letter with a colon or bar names a drive
and gets a colon. -/
def Resolved.next (kind : SchemeKind) (r : Resolved) (raw : List Char) : Resolved :=
  let segment := encodeText inPathSet (visible raw)
  let isFirst := kind = .file && r.done.isEmpty
  if isDoubleDot segment then { r with done := popSegment r.done, last := [] }
  else if isSingleDot segment then { r with last := [] }
  else if isFirst && isDriveLetter segment then
    { r with last := segment.take 1 ++ [':'], onDrive := true }
  else
    match if isFirst then cutDrive? raw else none with
    | some (drive, rest) => { r with done := [drive], last := encodeText inPathSet rest }
    | none => { r with last := segment }

/-- Whether a segment leads to another place and is none itself. -/
def isDots (raw : List Char) : Bool :=
  isDoubleDot (visible raw) || isSingleDot (visible raw)

def resolveSegments (kind : SchemeKind) (r : Resolved) : List (List Char) → Resolved
  | [] => r
  | [raw] => r.next kind raw
  | raw :: rest =>
    let r := r.next kind raw
    resolveSegments kind
      (if isDots raw then r else { r with done := r.done ++ [r.last], last := [] }) rest

def Resolved.path (r : Resolved) : List Char :=
  ['/'] ++ r.done.flatMap (· ++ ['/']) ++ r.last

/-- A path of a `file` URI has one slash at its start. -/
def oneSlash (path : List Char) : List Char :=
  '/' :: path.dropWhile (· = '/')

/-- Reads a path, given without its first slash. -/
def resolvePath (kind : SchemeKind) (text : List Char) : Resolved :=
  let isSlash c := c == '/' || (kind.isSpecial && c == '\\')
  resolveSegments kind {} (segments isSlash text)

/-- The normal form of a path, given without its first slash. -/
def normalPath (kind : SchemeKind) (text : List Char) : List Char :=
  let path := (resolvePath kind text).path
  if kind = .file then oneSlash path else path

/-- The path that a `file` URI gets when it is given the path of another URI. -/
def asFilePath (path : List Char) : List Char :=
  normalPath .file (path.drop 1)

end RLanguageHost.Uri
