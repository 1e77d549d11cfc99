import RLanguageHost.Text.Utf8

/-!
# File paths

A path is a string of bytes. What it names is decided by its components: the root if it starts with
a slash, then the names between the slashes. Empty names and the name `.` do not count, except `.`
at the start of a relative path; `..` is a component like any other and is not resolved.

Two paths are `Same` if they have the same components, and a path lies `within` another if the
components of the other come first in it. Both ignore repeated and trailing slashes.
-/

namespace RLanguageHost

structure FilePath where
  bytes : Bytes
  deriving Repr, DecidableEq, Inhabited

namespace FilePath

/-- The byte that separates names. -/
def slash : UInt8 := 0x2F

def dot : UInt8 := 0x2E

def ofString (s : String) : FilePath :=
  ⟨bytesOf s⟩

/-- The path as text; bytes that are no text become U+FFFD. -/
def text (p : FilePath) : String :=
  String.ofList (Utf8.lossy p.bytes)

/-- The parts of a byte string between occurrences of a separator; one part more than separators. -/
def splitOn (separator : UInt8) : Bytes → List Bytes
  | [] => [[]]
  | b :: rest =>
    if b = separator then [] :: splitOn separator rest
    else
      match splitOn separator rest with
      | [] => [[b]]
      | part :: parts => (b :: part) :: parts

def join (separator : UInt8) : List Bytes → Bytes
  | [] => []
  | [part] => part
  | part :: parts => part ++ separator :: join separator parts

theorem splitOn_ne_nil (separator : UInt8) (bs : Bytes) : splitOn separator bs ≠ [] := by
  cases bs with
  | nil => simp [splitOn]
  | cons b rest =>
    unfold splitOn
    split
    · simp
    · split <;> simp

def isAbsolute (p : FilePath) : Bool :=
  p.bytes.head? = some slash

/-- A part of a path that counts. -/
inductive Component where
  /-- The root of the file system. -/
  | root
  /-- The directory in which a relative path starts. -/
  | current
  /-- The directory above. -/
  | parent
  | name (bytes : Bytes)
  deriving Repr, DecidableEq

/-- The component between two slashes, if it counts. -/
def component? (part : Bytes) : Option Component :=
  if part = [] ∨ part = [dot] then none
  else if part = [dot, dot] then some .parent
  else some (.name part)

def relativeComponents (bs : Bytes) : List Component :=
  match splitOn slash bs with
  | [] => []
  | first :: rest =>
    (if first = [dot] then some .current else component? first).toList ++ rest.filterMap component?

def components (p : FilePath) : List Component :=
  match p.bytes with
  | [] => []
  | b :: rest =>
    if b = slash then .root :: (splitOn slash rest).filterMap component?
    else relativeComponents (b :: rest)

/-- Whether two paths have the same components. -/
def Same (p q : FilePath) : Prop :=
  p.components = q.components

instance (p q : FilePath) : Decidable (Same p q) :=
  inferInstanceAs (Decidable (p.components = q.components))

/-- Whether a path is a directory or lies below it. -/
def within (p directory : FilePath) : Bool :=
  directory.components.isPrefixOf p.components

/-- The last component if it is a name. -/
def fileName? (p : FilePath) : Option Bytes :=
  match p.components.getLast? with
  | some (.name bytes) => some bytes
  | _ => none

/-- Whether a part between slashes is no component. -/
def isFiller (part : Bytes) : Bool :=
  part = [] || part = [dot]

/-- Parts without those at the end that are no components. -/
def dropFiller (parts : List Bytes) : List Bytes :=
  (parts.reverse.dropWhile isFiller).reverse

def dropLast? (parts : List Bytes) : Option (List Bytes) :=
  match dropFiller parts with
  | [] => none
  | part :: rest => some (dropFiller (part :: rest).dropLast)

/-- The path without its last component and the slashes before it. The root has no parent. -/
def parent? (p : FilePath) : Option FilePath :=
  match p.bytes with
  | [] => none
  | b :: rest =>
    if b = slash then
      (dropLast? (splitOn slash rest)).map fun parts => ⟨slash :: join slash parts⟩
    else
      match splitOn slash (b :: rest) with
      | [] => none
      | first :: parts =>
        if first = [dot] then
          match dropLast? parts with
          | none => some ⟨[]⟩
          | some parts => some ⟨join slash (first :: parts)⟩
        else (dropLast? (first :: parts)).map fun parts => ⟨join slash parts⟩

/-- The directory that a file lies in; the path itself where it has none. -/
def directory (p : FilePath) : FilePath :=
  match p.parent? with
  | some parent => if parent.bytes = [] then p else parent
  | none => p

/-- A path below a directory; an absolute path stays as it is. -/
def append (directory p : FilePath) : FilePath :=
  if p.isAbsolute then p
  else if directory.bytes = [] then p
  else if directory.bytes.getLast? = some slash then ⟨directory.bytes ++ p.bytes⟩
  else ⟨directory.bytes ++ slash :: p.bytes⟩

end FilePath

end RLanguageHost
