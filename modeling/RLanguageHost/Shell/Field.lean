import RLanguageHost.Glob.Matcher
import RLanguageHost.Shell.Word

/-!
# Fields of shell words

An expanded word is split into fields. Each character of a field remembers whether it was quoted,
because quoted characters stand for themselves in patterns.

Separators that are white space join with those around them; any other separator ends a field, also
an empty one.
-/

namespace RLanguageHost.Shell

/-- A field: characters, and whether each was quoted. -/
abbrev Field := List (Char × Bool)

/-- What an expanded part adds to the fields. -/
inductive Bit where
  /-- Text that stays together. -/
  | kept (text : String) (quoted : Bool)
  /-- Text that is split at separators. -/
  | loose (text : String)
  /-- A new field begins. -/
  | next
  deriving Repr, DecidableEq, Inhabited

namespace Field

def text (f : Field) : String :=
  String.ofList (f.map (·.1))

def isPattern (f : Field) : Bool :=
  f.any fun (c, quoted) => !quoted && (c = '*' || c = '?' || c = '[')

def byte (c : Char) : UInt8 :=
  UInt8.ofNat c.toNat

def classes : List (String × List (Char × Char)) :=
  [("alnum", [('0', '9'), ('a', 'z'), ('A', 'Z')]), ("alpha", [('a', 'z'), ('A', 'Z')]),
    ("blank", [(' ', ' '), ('\t', '\t')]), ("cntrl", [('\x00', '\x1f'), ('\x7f', '\x7f')]),
    ("digit", [('0', '9')]), ("graph", [('!', '~')]), ("lower", [('a', 'z')]),
    ("print", [(' ', '~')]), ("punct", [('!', '/'), (':', '@'), ('[', '\x60'), ('\x7b', '~')]),
    ("space", [(' ', ' '), ('\t', '\r')]), ("upper", [('A', 'Z')]),
    ("word", [('0', '9'), ('a', 'z'), ('A', 'Z'), ('_', '_')]),
    ("xdigit", [('0', '9'), ('a', 'f'), ('A', 'F')])]

/-- The named class at the start of a field, after its opening bracket and colon. -/
def class? (f : Field) : Option (List (UInt8 × UInt8) × Field) :=
  let name := (f.map (·.1)).takeWhile Char.isAlpha
  match (f.drop name.length).map (·.1), classes.lookup (String.ofList name) with
  | ':' :: ']' :: _, some ranges =>
    some (ranges.map fun (a, b) => (byte a, byte b), f.drop (name.length + 2))
  | _, _ => none

/-- The ranges of a class, up to its closing bracket, which may come first. -/
def ranges : (fuel : Nat) → Bool → Field → Option (List (UInt8 × UInt8) × Field)
  | 0, _, _ => none
  | _, _, [] => none
  | fuel + 1, isFirst, (c, quoted) :: rest =>
    if c = ']' && !quoted && !isFirst then some ([], rest)
    else
      let named := if c = '[' && !quoted && rest.head?.any (·.1 = ':') then class? (rest.drop 1)
        else none
      match named, rest with
      | some (found, rest), _ => do
        let (more, rest) ← ranges fuel false rest
        return (found ++ more, rest)
      | none, ('-', false) :: (d, dQuoted) :: rest' =>
        if d = ']' && !dQuoted then do
          let (more, rest) ← ranges fuel false rest
          return ((byte c, byte c) :: more, rest)
        else do
          let (more, rest) ← ranges fuel false rest'
          return ((byte c, byte d) :: more, rest)
      | none, _ => do
        let (more, rest) ← ranges fuel false rest
        return ((byte c, byte c) :: more, rest)

def pieces : (fuel : Nat) → Field → List Glob.Piece
  | 0, _ => []
  | _, [] => []
  | fuel + 1, (c, quoted) :: rest =>
    let literal := Glob.Piece.one (.single (byte c)) :: pieces fuel rest
    if quoted then literal
    else
      match c, rest with
      | '*', _ => .run :: pieces fuel rest
      | '?', _ => .one .all :: pieces fuel rest
      | '\\', (d, _) :: rest => .one (.single (byte d)) :: pieces fuel rest
      | '[', _ =>
        let negated := rest.head?.any fun (d, q) => !q && (d = '!' || d = '^')
        match ranges fuel true (if negated then rest.drop 1 else rest) with
        | some (ranges, rest) => .one ⟨negated, ranges⟩ :: pieces fuel rest
        | none => literal
      | _, _ => literal

def isMatch (f : Field) (text : List Char) : Bool :=
  Glob.matchesPieces (pieces (f.length + 1) f) (text.map byte)

end Field

/-- How far text has been split. -/
structure Splitting where
  /-- The fields that are complete, the last one first. -/
  complete : List Field := []
  /-- The field that has begun. -/
  current : Option Field := none
  /-- Whether white space ended the last field, so that a separator may still belong to its end. -/
  afterBlank : Bool := false

namespace Splitting

def close (x : Splitting) : Splitting :=
  match x.current with
  | some f => { x with complete := f.reverse :: x.complete, current := none }
  | none => x

/-- Adds characters to the field that has begun. -/
def extend (x : Splitting) (cs : List (Char × Bool)) : Splitting :=
  { x with current := some (cs.reverse ++ x.current.getD []), afterBlank := false }

/-- Goes past a separator. -/
def separate (x : Splitting) (isBlank : Bool) : Splitting :=
  if isBlank then
    if x.current.isSome then { x.close with afterBlank := true } else x
  else if x.current.isSome then { x.close with afterBlank := false }
  else if x.afterBlank then { x with afterBlank := false }
  else { x with complete := [] :: x.complete }

def loosen (separators : List Char) (x : Splitting) : List Char → Splitting
  | [] => x
  | c :: rest =>
    if separators.contains c then
      loosen separators (x.separate (c = ' ' || c = '\t' || c = '\n')) rest
    else loosen separators (x.extend [(c, false)]) rest

def add (separators : List Char) (x : Splitting) : Bit → Splitting
  | .kept s quoted => if s = "" && !quoted then x else x.extend (s.toList.map (·, quoted))
  | .loose s => x.loosen separators s.toList
  | .next => { x.close with afterBlank := false }

end Splitting

namespace Bit

def fields (separators : List Char) (bits : List Bit) : List Field :=
  (bits.foldl (Splitting.add separators) {}).close.complete.reverse

def joinedText (bits : List Bit) : String :=
  bits.foldl (fun acc bit =>
    match bit with
    | .kept s _ | .loose s => acc ++ s
    | .next => acc ++ " ") ""

def wholeField (bits : List Bit) : Field :=
  bits.flatMap fun
    | .kept s quoted => s.toList.map (·, quoted)
    | .loose s => s.toList.map (·, false)
    | .next => [(' ', true)]

end Bit

end RLanguageHost.Shell
