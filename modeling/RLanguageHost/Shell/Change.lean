import RLanguageHost.Shell.Field

/-!
# Changes of values

What modifiers make of the value of a parameter: pieces of it, with matches of a pattern taken away
or replaced, in other letters, or written in a form that a shell reads back.
-/

namespace RLanguageHost.Shell.Change

/-- The texts that a text can be split into, with the first part growing. -/
def splits (before : List Char) : List Char → List (List Char × List Char)
  | [] => [(before, [])]
  | c :: rest => (before, c :: rest) :: splits (before ++ [c]) rest

/-- A text without what a pattern matches at its start. -/
def dropFront (longest : Bool) (pattern : Field) (s : String) : String :=
  let all := splits [] s.toList
  let all := if longest then all.reverse else all
  match all.find? fun (front, _) => pattern.isMatch front with
  | some (_, rest) => String.ofList rest
  | none => s

/-- A text without what a pattern matches at its end. -/
def dropBack (longest : Bool) (pattern : Field) (s : String) : String :=
  let all := splits [] s.toList
  let all := if longest then all else all.reverse
  match all.find? fun (_, rest) => pattern.isMatch rest with
  | some (front, _) => String.ofList front
  | none => s

/-- A replacement, in which an ampersand that is not quoted stands for the match. -/
def filled (replacement : Field) (found : List Char) : List Char :=
  match replacement with
  | [] => []
  | (c, quoted) :: rest =>
    if c = '&' && !quoted then found ++ filled rest found else c :: filled rest found

/-- A text with what a pattern matches replaced, the longest match first. -/
def replaceWithin (all : Bool) (pattern replacement : Field) :
    (fuel : Nat) → List Char → List Char
  | 0, cs => cs
  | _, [] => []
  | fuel + 1, c :: rest =>
    let found := (splits [] (c :: rest)).reverse.find? fun (front, _) =>
      !front.isEmpty && pattern.isMatch front
    match found with
    | some (front, rest) =>
      filled replacement front
        ++ (if all then replaceWithin all pattern replacement fuel rest else rest)
    | none => c :: replaceWithin all pattern replacement fuel rest

def replace (which : Occurrence) (pattern replacement : Field) (s : String) : String :=
  let cs := s.toList
  String.ofList (match which with
    | .first => replaceWithin false pattern replacement (cs.length + 1) cs
    | .all => replaceWithin true pattern replacement (cs.length + 1) cs
    | .front =>
      match (splits [] cs).reverse.find? fun (front, _) => pattern.isMatch front with
      | some (front, rest) => filled replacement front ++ rest
      | none => cs
    | .back =>
      match (splits [] cs).find? fun (_, rest) => pattern.isMatch rest with
      | some (front, rest) => front ++ filled replacement rest
      | none => cs)

/-- A text with the first character or all characters that match a pattern in another case. -/
def inCase (upper all : Bool) (pattern : Field) (s : String) : String :=
  let change (c : Char) : Char :=
    if pattern.isEmpty || pattern.isMatch [c] then if upper then c.toUpper else c.toLower else c
  match s.toList with
  | [] => s
  | c :: rest => String.ofList (change c :: if all then rest.map change else rest)

/-- The part of a list from an offset on, which counts from the end if it is negative, and at most
so many elements, or all but so many at the end if that is negative. -/
def slice? {α : Type} (l : List α) (offset : Int) (count : Option Int) : Option (List α) :=
  let start := if offset < 0 then l.length + offset else offset
  if start < 0 || (l.length : Int) < start then some []
  else
    let rest := l.drop start.toNat
    match count with
    | none => some rest
    | some n =>
      if 0 ≤ n then some (rest.take n.toNat)
      else
        let stop := l.length + n - start
        if stop < 0 then none else some (rest.take stop.toNat)

/-- A text between single quotes, with those in it written outside. -/
def singleQuoted (s : String) : String :=
  "\x27" ++ String.join (s.toList.map fun c => if c = '\x27' then "\x27\\\x27\x27" else
    String.ofList [c]) ++ "\x27"

/-- Whether a text has characters that are written by backslashes. -/
def hasControls (s : String) : Bool :=
  s.toList.any fun c => c.toNat < 32 || 127 ≤ c.toNat

/-- Three digits of a number in base eight. -/
def octal (n : Nat) : List Char :=
  let ds := Nat.toDigits 8 n
  List.replicate (3 - ds.length) '0' ++ ds

/-- A text between single quotes after a dollar sign. -/
def escaped (s : String) : String :=
  "$\x27" ++ String.join (s.toList.map fun c =>
    match written.find? (·.1 = c) with
    | some (_, letter) => String.ofList ['\\', letter]
    | none =>
      if c.toNat < 32 || 127 ≤ c.toNat then String.ofList ('\\' :: octal c.toNat)
      else String.ofList [c]) ++ "\x27"
where
  /-- The characters that a backslash and a letter or sign write. -/
  written : List (Char × Char) :=
    [('\x07', 'a'), ('\x08', 'b'), ('\x1b', 'E'), ('\x0c', 'f'), ('\n', 'n'), ('\r', 'r'),
      ('\t', 't'), ('\x0b', 'v'), ('\\', '\\'), ('\x27', '\x27')]

/-- A text as a value that a shell reads back. -/
def quotedValue (s : String) : String :=
  if hasControls s then escaped s else singleQuoted s

/-- A text with backslashes before the characters that need them. -/
def backslashed (s : String) : String :=
  if s = "" then "\x27\x27"
  else if hasControls s then escaped s
  else String.join ((s.toList.zipIdx).map fun (c, i) =>
    if " \t\n\x27\"\\|&;()<>!\x7b\x7d*[?]^$\x60,".toList.contains c
        || (i = 0 && (c = '#' || c = '~')) then String.ofList ['\\', c]
    else String.ofList [c])

def doubleQuoted (s : String) : String :=
  if hasControls s then escaped s
  else "\"" ++ String.join (s.toList.map fun c =>
    if "\"\\$\x60".toList.contains c then String.ofList ['\\', c] else String.ofList [c]) ++ "\""

end RLanguageHost.Shell.Change
