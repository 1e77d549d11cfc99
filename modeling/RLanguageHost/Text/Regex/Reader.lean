import RLanguageHost.Text.Regex

/-!
# Spellings of regular expressions

The text of an expression has a few spellings. In the basic one a backslash makes grouping and
counting characters special, in the extended one it makes them ordinary. Some programs read more
escapes than others.
-/

namespace RLanguageHost.Regex

structure Spelling where
  /-- Whether grouping and counting characters are special without a backslash. -/
  extended : Bool := true
  /-- Whether backslashes in brackets write characters. -/
  bracketEscapes : Bool := false
  /-- Whether backslashes write tabs and the like instead of places in words. -/
  controls : Bool := false
  /-- Whether a backslash and a letter stand for digits. -/
  digits : Bool := false
  /-- Whether large and small letters match each other. -/
  ignoresCase : Bool := false
  deriving Repr, Inhabited

def classes : List (String × List (Char × Char)) :=
  [("alnum", [('0', '9'), ('a', 'z'), ('A', 'Z')]), ("alpha", [('a', 'z'), ('A', 'Z')]),
    ("blank", [(' ', ' '), ('\t', '\t')]), ("cntrl", [('\x00', '\x1f'), ('\x7f', '\x7f')]),
    ("digit", [('0', '9')]), ("graph", [('!', '~')]), ("lower", [('a', 'z')]),
    ("print", [(' ', '~')]), ("punct", [('!', '/'), (':', '@'), ('[', '\x60'), ('\x7b', '~')]),
    ("space", [(' ', ' '), ('\t', '\r')]), ("upper", [('A', 'Z')]),
    ("xdigit", [('0', '9'), ('a', 'f'), ('A', 'F')])]

/-- The characters that a backslash writes by a letter. -/
def controlOf? (c : Char) : Option UInt8 :=
  [('n', (10 : UInt8)), ('t', 9), ('r', 13), ('f', 12), ('v', 11), ('a', 7)].lookup c

def rangeOf (r : Char × Char) : UInt8 × UInt8 :=
  (byte r.1, byte r.2)

def setOf (s : Spelling) (negated : Bool) (ranges : List (UInt8 × UInt8)) : Glob.ByteSet :=
  if s.ignoresCase then
    let letters := (List.range 26).flatMap fun i =>
      let small := UInt8.ofNat (97 + i)
      let large := UInt8.ofNat (65 + i)
      let found := ranges.any fun (a, b) => (a ≤ small && small ≤ b) || (a ≤ large && large ≤ b)
      if found then [(small, small), (large, large)] else []
    ⟨negated, ranges ++ letters⟩
  else ⟨negated, ranges⟩

def single (s : Spelling) (b : UInt8) : Regex :=
  .one (setOf s false [(b, b)])

/-- Reads the ranges of a class up to its closing bracket. -/
def ranges (s : Spelling) (isFirst : Bool) :
    (fuel : Nat) → List Char → Option (List (UInt8 × UInt8) × List Char)
  | 0, _ => none
  | _, [] => none
  | fuel + 1, '[' :: ':' :: rest => do
    let name := rest.takeWhile Char.isAlpha
    let found ← classes.lookup (String.ofList name)
    match rest.drop name.length with
    | ':' :: ']' :: rest =>
      let (more, rest) ← ranges s false fuel rest
      return (found.map rangeOf ++ more, rest)
    | _ => none
  | fuel + 1, c :: rest =>
    if c = ']' && !isFirst then some ([], rest)
    else
      let (first, rest) : UInt8 × List Char :=
        match s.bracketEscapes, c, rest with
        | true, '\\', e :: rest' =>
          match controlOf? e with
          | some b => (b, rest')
          | none =>
            if s.controls || e = '\\' || e = ']' then (byte e, rest') else (byte c, rest)
        | _, _, _ => (byte c, rest)
      match rest with
      | '-' :: d :: rest' =>
        if d = ']' then do
          let (more, rest) ← ranges s false fuel rest
          return ((first, first) :: more, rest)
        else if byte d < first then none
        else do
          let (more, rest) ← ranges s false fuel rest'
          return ((first, byte d) :: more, rest)
      | _ => do
        let (more, rest) ← ranges s false fuel rest
        return ((first, first) :: more, rest)

/-- A piece of the text of an expression: an operator, or an ordinary expression. -/
inductive Piece where
  | operator (c : Char)
  | plain (r : Regex)
  deriving Repr, Inhabited

def wordRanges : List (UInt8 × UInt8) :=
  [('0', '9'), ('a', 'z'), ('A', 'Z'), ('_', '_')].map rangeOf

def spaceRanges : List (UInt8 × UInt8) :=
  [(' ', ' '), ('\t', '\r')].map rangeOf

/-- The expression that a backslash and a character stand for. -/
def escaped (s : Spelling) (c : Char) : Regex :=
  if s.controls then
    match controlOf? c with
    | some b => .one (.single b)
    | none => single s (byte c)
  else
    match c with
    | 'd' => if s.digits then .one ⟨false, [(48, 57)]⟩ else single s (byte c)
    | 'D' => if s.digits then .one ⟨true, [(48, 57)]⟩ else single s (byte c)
    | 'w' => .one ⟨false, wordRanges⟩
    | 'W' => .one ⟨true, wordRanges⟩
    | 's' => .one ⟨false, spaceRanges⟩
    | 'S' => .one ⟨true, spaceRanges⟩
    | 'b' => .wordEdge true true
    | 'B' => .noWordEdge
    | '<' => .wordEdge true false
    | '>' => .wordEdge false true
    | '\x60' => .lineStart
    | '\x27' => .lineEnd
    | 'n' => if s.bracketEscapes then .one (.single 10) else single s (byte c)
    | 't' => if s.bracketEscapes then .one (.single 9) else single s (byte c)
    | _ =>
      if c.isDigit && c ≠ '0' then .same (c.toNat - 48) else single s (byte c)

def grouping : List Char :=
  "()|+?\x7b\x7d".toList

def piece (s : Spelling) : List Char → Option (Piece × List Char)
  | [] => none
  | '\\' :: c :: rest =>
    if grouping.contains c && !s.extended then some (.operator c, rest)
    else some (.plain (escaped s c), rest)
  | '[' :: rest => do
    let negated := rest.head? = some '^'
    let (rs, rest) ← ranges s true (rest.length + 1) (if negated then rest.drop 1 else rest)
    return (.plain (.one (setOf s negated rs)), rest)
  | '.' :: rest => some (.plain (.one .all), rest)
  | '^' :: rest => some (.operator '^', rest)
  | '$' :: rest => some (.operator '$', rest)
  | '*' :: rest => some (.operator '*', rest)
  | c :: rest =>
    if s.extended && grouping.contains c then some (.operator c, rest)
    else some (.plain (single s (byte c)), rest)

/-- The counts after an opening brace, and what follows the closing one. -/
def counts? (s : Spelling) (cs : List Char) : Option (Nat × Option Nat × List Char) :=
  let first := cs.takeWhile Char.isDigit
  let least := (String.ofList first).toNat?
  let closed (cs : List Char) : Option (List Char) :=
    match s.extended, cs with
    | true, '\x7d' :: rest => some rest
    | false, '\\' :: '\x7d' :: rest => some rest
    | _, _ => none
  match cs.drop first.length with
  | ',' :: rest =>
    let second := rest.takeWhile Char.isDigit
    (closed (rest.drop second.length)).map (least.getD 0, (String.ofList second).toNat?, ·)
  | rest => do
    let n ← least
    let rest ← closed rest
    return (n, some n, rest)

def counted (s : Spelling) : (fuel : Nat) → Regex → List Char → Option (Regex × List Char)
  | 0, item, cs => some (item, cs)
  | fuel + 1, item, cs =>
    match piece s cs with
    | some (.operator '*', rest) => counted s fuel (.repeated 0 none item) rest
    | some (.operator '+', rest) => counted s fuel (.repeated 1 none item) rest
    | some (.operator '?', rest) => counted s fuel (.repeated 0 (some 1) item) rest
    | some (.operator '\x7b', rest) =>
      match counts? s rest with
      | some (least, most, rest) =>
        if most.any (· < least) then none else counted s fuel (.repeated least most item) rest
      | none => if s.extended then some (item, cs) else none
    | _ => some (item, cs)

/-- Whether an expression of the basic spelling ends here. -/
def endsHere (s : Spelling) (cs : List Char) : Bool :=
  match piece s cs with
  | none | some (.operator ')', _) | some (.operator '|', _) => true
  | _ => false

mutual

/-- Reads alternatives; groups are numbered by their opening brackets. -/
def alternatives (s : Spelling) :
    (fuel : Nat) → Nat → List Char → Option (Regex × Nat × List Char)
  | 0, _, _ => none
  | fuel + 1, n, cs => do
    let (first, n, rest) ← items s fuel true n .empty cs
    match piece s rest with
    | some (.operator '|', rest) =>
      let (second, n, rest) ← alternatives s fuel n rest
      return (.either first second, n, rest)
    | _ => return (first, n, rest)

def items (s : Spelling) :
    (fuel : Nat) → (isFirst : Bool) → Nat → Regex → List Char → Option (Regex × Nat × List Char)
  | 0, _, _, _, _ => none
  | fuel + 1, isFirst, n, before, cs =>
    let add (item : Regex) (n : Nat) (rest : List Char) : Option (Regex × Nat × List Char) := do
      let (item, rest) ← counted s (rest.length + 1) item rest
      items s fuel false n (.sequence before item) rest
    match piece s cs with
    | none => if cs.isEmpty then some (before, n, cs) else none
    | some (.operator '|', _) | some (.operator ')', _) => some (before, n, cs)
    | some (.operator '(', rest) => do
      let (inner, m, rest) ← alternatives s fuel (n + 1) rest
      match piece s rest with
      | some (.operator ')', rest) => add (.group n inner) m rest
      | _ => none
    | some (.operator '^', rest) =>
      if s.extended || isFirst then
        items s fuel true n (.sequence before .lineStart) rest
      else add (single s (byte '^')) n rest
    | some (.operator '$', rest) =>
      if s.extended || endsHere s rest then items s fuel false n (.sequence before .lineEnd) rest
      else add (single s (byte '$')) n rest
    | some (.operator c, rest) =>
      if s.extended && c ≠ '\x7b' && c ≠ '\x7d' then
        if isFirst then items s fuel true n before rest else none
      else add (single s (byte c)) n rest
    | some (.plain (.wordEdge a b), rest) =>
      items s fuel false n (.sequence before (.wordEdge a b)) rest
    | some (.plain r, rest) => add r n rest

end

def ofText? (s : Spelling) (text : String) : Option Regex := do
  let cs := text.toList
  let (r, _, rest) ← alternatives s (4 * cs.length + 8) 1 cs
  if rest.isEmpty then return r else none

end RLanguageHost.Regex
