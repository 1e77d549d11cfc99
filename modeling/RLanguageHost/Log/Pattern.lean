import RLanguageHost.Text.CodePoints

/-!
# Patterns

Patterns say which values a log filter is about. They are regular expressions over characters.

A text is read once from its start to its end, and all the ways in which a match may go on are kept
in the order in which they are preferred: earlier starts first, then earlier alternatives, then
longer repetitions. Where a way is complete, the ways after it are given up. The text has the
pattern if a way is complete at its end. So a match before the end counts only if a preferred way
goes on from it.
-/

namespace RLanguageHost.Log

inductive CharSet where
  | none
  | range (first last : Char)
  | union (a b : CharSet)
  | complement (a : CharSet)
  deriving Repr, DecidableEq, Inhabited

namespace CharSet

def has (c : Char) : CharSet → Bool
  | .none => false
  | .range first last => first ≤ c && c ≤ last
  | .union a b => a.has c || b.has c
  | .complement a => !a.has c

def single (c : Char) : CharSet :=
  .range c c

def ofRanges (ranges : List (Char × Char)) : CharSet :=
  ranges.foldr (fun r s => .union (.range r.1 r.2) s) .none

def inLine : CharSet :=
  .complement (.single '\n')

def named : List (String × CharSet) :=
  let lower := ('a', 'z')
  let upper := ('A', 'Z')
  let digits := ('0', '9')
  [("alnum", .ofRanges [digits, upper, lower]), ("alpha", .ofRanges [upper, lower]),
    ("ascii", .range '\x00' '\x7f'), ("blank", .ofRanges [('\t', '\t'), (' ', ' ')]),
    ("cntrl", .ofRanges [('\x00', '\x1f'), ('\x7f', '\x7f')]), ("digit", .ofRanges [digits]),
    ("graph", .range '!' '~'), ("lower", .ofRanges [lower]), ("print", .range ' ' '~'),
    ("punct", .ofRanges [('!', '/'), (':', '@'), ('[', '\x60'), ('\x7b', '~')]),
    ("space", .ofRanges [('\t', '\r'), (' ', ' ')]), ("upper", .ofRanges [upper]),
    ("word", .ofRanges [digits, upper, ('_', '_'), lower]),
    ("xdigit", .ofRanges [digits, ('A', 'F'), ('a', 'f')])]

end CharSet

inductive Pattern where
  | empty
  | one (set : CharSet)
  /-- The start of the text. -/
  | start
  /-- The end of the text. -/
  | stop
  | sequence (first second : Pattern)
  /-- One of two patterns, the first one preferred. -/
  | either (first second : Pattern)
  /-- Any number of matches, where many or few are preferred. -/
  | many (greedy : Bool) (body : Pattern)
  deriving Repr, DecidableEq, Inhabited

namespace Pattern

/-- A way in which a match may go on: it is complete, or takes a character first. -/
inductive Way where
  | complete
  | take (set : CharSet) (rest : Pattern)
  deriving Repr, DecidableEq

def followedBy (first second : Pattern) : Pattern :=
  if first = .empty then second else .sequence first second

/-- The ways in which a match of a pattern may go on, the preferred one first. -/
def ways (atStart atEnd : Bool) : Pattern → List Way
  | .empty => [.complete]
  | .one set => [.take set .empty]
  | .start => if atStart then [.complete] else []
  | .stop => if atEnd then [.complete] else []
  | .sequence a b =>
    (a.ways atStart atEnd).flatMap fun
      | .complete => b.ways atStart atEnd
      | .take set rest => [.take set (rest.followedBy b)]
  | .either a b => a.ways atStart atEnd ++ b.ways atStart atEnd
  | .many greedy a =>
    let more := (a.ways atStart atEnd).map fun
      | .complete => .complete
      | .take set rest => .take set (rest.followedBy (.many greedy a))
    if greedy then more ++ [.complete] else .complete :: more

/-- What is left of a way when a character has been taken. -/
def Way.after? (c : Char) : Way → Option Pattern
  | .complete => none
  | .take set rest => if set.has c then some rest else none

/-- Whether one of the open matches, or of those that may still start, is complete at the end of a
text. -/
def endsIn (starts : Option Pattern) (opened : List Pattern) (atStart : Bool) :
    List Char → Bool
  | [] => ((opened ++ starts.toList).flatMap (·.ways atStart true)).contains .complete
  | c :: rest =>
    let found := ((opened ++ starts.toList).flatMap (·.ways atStart false)).eraseDups
    let starts := if found.contains .complete then none else starts
    endsIn starts ((found.takeWhile (· ≠ .complete)).filterMap (·.after? c)) false rest

/-- Whether a text has a pattern up to its end. -/
def accepts (p : Pattern) (text : String) : Bool :=
  endsIn (some p) [] true text.toList

/-- The letters that stand for control characters after a backslash. -/
def controls : List (Char × Char) :=
  [('a', '\x07'), ('f', '\x0c'), ('n', '\n'), ('r', '\r'), ('t', '\t'), ('v', '\x0b')]

/-- The character whose number has so many digits at the start of a text. -/
def numbered? (digits : Nat) (text : List Char) : Option (Char × List Char) :=
  let word := (text.take digits).map Char.toUpper
  if word.length = digits && word.all fun c => c.isDigit || ('A' ≤ c && c ≤ 'F') then
    let n := Text.tableNumber word
    if n.isValidChar then some (.ofNat n, text.drop digits) else none
  else none

/-- The character that a text says after a backslash. -/
def escaped? : List Char → Option (Char × List Char)
  | [] => none
  | 'x' :: rest => numbered? 2 rest
  | 'u' :: rest => numbered? 4 rest
  | 'U' :: rest => numbered? 8 rest
  | c :: rest =>
    if c.isAlphanum then (controls.lookup c).map (·, rest)
    else if 0x80 ≤ c.toNat || c = '<' || c = '>' then none
    else some (c, rest)

/-- The next character of a text, which may be escaped. -/
def char? : List Char → Option (Char × List Char)
  | [] => none
  | '\\' :: rest => escaped? rest
  | c :: rest => some (c, rest)

/-- The named set at the start of a text whose opening bracket and colon have been read. -/
def named? (text : List Char) : Option (CharSet × List Char) :=
  let (inverted, text) :=
    match text with
    | '^' :: rest => (true, rest)
    | text => (false, text)
  let name := text.takeWhile Char.isAlpha
  match text.drop name.length with
  | ':' :: ']' :: rest =>
    (CharSet.named.lookup (String.ofList name)).map fun s =>
      (if inverted then .complement s else s, rest)
  | _ => none

/-- What comes next within the brackets of a set. -/
inductive SetPart where
  | close
  | set (s : CharSet)
  /-- A set of its own within the set. -/
  | openSet
  deriving Repr, DecidableEq

/-- The next part of a set: its closing bracket, a set within it, a range or a character. Two signs
in a row that would join sets are refused. -/
def setPart? (text : List Char) : Option (SetPart × List Char) :=
  match text with
  | ']' :: rest => some (.close, rest)
  | '[' :: ':' :: rest =>
    match named? rest with
    | some (s, rest) => some (.set s, rest)
    | none => some (.openSet, ':' :: rest)
  | '[' :: rest => some (.openSet, rest)
  | '&' :: '&' :: _ | '-' :: '-' :: _ | '~' :: '~' :: _ => none
  | text => do
    let (first, rest) ← char? text
    match rest with
    | '-' :: ']' :: _ | '-' :: '-' :: _ => return (.set (.single first), rest)
    | '-' :: rest =>
      let (last, rest) ← char? rest
      if first ≤ last then return (.set (.range first last), rest) else none
    | rest => return (.set (.single first), rest)

/-- What comes first in a set: whether it is the complement of what follows, and signs that stand
for themselves only there. -/
def setStart (text : List Char) : Bool × CharSet × List Char :=
  let (inverted, text) :=
    match text with
    | '^' :: rest => (true, rest)
    | text => (false, text)
  let dashes := text.takeWhile (· = '-')
  let text := text.drop dashes.length
  match dashes.isEmpty, text with
  | true, ']' :: rest => (inverted, .single ']', rest)
  | true, text => (inverted, .none, text)
  | false, text => (inverted, .single '-', text)

/-- Reads a set to its closing bracket. -/
def set? : (fuel : Nat) → Bool → CharSet → List Char → Option (CharSet × List Char)
  | 0, _, _, _ => none
  | fuel + 1, inverted, found, text => do
    match ← setPart? text with
    | (.close, rest) => return (if inverted then .complement found else found, rest)
    | (.set s, rest) => set? fuel inverted (.union found s) rest
    | (.openSet, rest) =>
      let (inner, s, rest) := setStart rest
      let (s, rest) ← set? fuel inner s rest
      set? fuel inverted (.union found s) rest

/-- What an opening parenthesis is followed by before the pattern within it: nothing, or a sign that
the group is not kept, or a name for it. -/
def groupStart? : List Char → Option (List Char)
  | '?' :: ':' :: rest => some rest
  | '?' :: 'P' :: '<' :: rest | '?' :: '<' :: rest =>
    let name := rest.takeWhile fun c => c.isAlphanum || c = '_'
    match rest.drop name.length with
    | '>' :: rest => if name.head?.any (!·.isDigit) then some rest else none
    | _ => none
  | '?' :: _ => none
  | text => some text

def repeated : (fuel : Nat) → Pattern → List Char → Pattern × List Char
  | 0, p, text => (p, text)
  | fuel + 1, p, text =>
    let lazily (rest : List Char) : Bool × List Char :=
      match rest with
      | '?' :: rest => (false, rest)
      | rest => (true, rest)
    match text with
    | '*' :: rest =>
      let (greedy, rest) := lazily rest
      repeated fuel (.many greedy p) rest
    | '+' :: rest =>
      let (greedy, rest) := lazily rest
      repeated fuel (.sequence p (.many greedy p)) rest
    | '?' :: rest =>
      let (greedy, rest) := lazily rest
      repeated fuel (if greedy then .either p .empty else .either .empty p) rest
    | text => (p, text)

mutual

/-- Reads alternatives up to a closing parenthesis or the end. -/
def alternatives? : (fuel : Nat) → List Char → Option (Pattern × List Char)
  | 0, _ => none
  | fuel + 1, text => do
    let (first, rest) ← items? fuel .empty text
    match rest with
    | '|' :: rest =>
      let (second, rest) ← alternatives? fuel rest
      return (.either first second, rest)
    | rest => return (first, rest)

def items? : (fuel : Nat) → Pattern → List Char → Option (Pattern × List Char)
  | 0, _, _ => none
  | fuel + 1, before, text =>
    match text with
    | [] | '|' :: _ | ')' :: _ => some (before, text)
    | text => do
      let (item, rest) ← item? fuel text
      let (item, rest) := repeated rest.length item rest
      items? fuel (before.followedBy item) rest

/-- Reads one item without its repetitions. -/
def item? : (fuel : Nat) → List Char → Option (Pattern × List Char)
  | 0, _ => none
  | _, [] => none
  | fuel + 1, c :: rest =>
    match c with
    | '(' => do
      let (inner, rest) ← alternatives? fuel (← groupStart? rest)
      match rest with
      | ')' :: rest => return (inner, rest)
      | _ => none
    | '[' => do
      let (inverted, s, rest) := setStart rest
      let (s, rest) ← set? (rest.length + 1) inverted s rest
      return (.one s, rest)
    | '*' | '+' | '?' | '\x7b' => none
    | '^' => some (.start, rest)
    | '$' => some (.stop, rest)
    | '.' => some (.one .inLine, rest)
    | '\\' =>
      match rest with
      | 'A' :: rest => some (.start, rest)
      | 'z' :: rest => some (.stop, rest)
      | rest => do
        let (c, rest) ← escaped? rest
        return (.one (.single c), rest)
    | c => some (.one (.single c), rest)

end

def ofText? (text : List Char) : Option Pattern := do
  let (p, rest) ← alternatives? (4 * text.length + 4) text
  if rest.isEmpty then return p else none

end Pattern

end RLanguageHost.Log
