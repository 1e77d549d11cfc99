import RLanguageHost.Shell.Word

/-!
# Braces

A word with alternatives between braces stands for several words, one for each alternative, and so
does one with the ends of a sequence between braces. This happens before anything is put into words.
-/

namespace RLanguageHost.Shell.Braces

/-- The parts of a word with the text that is not quoted taken apart into characters. -/
def spread (w : Word) : List Part :=
  w.flatMap fun
    | .text s false => s.toList.map fun c => .text (String.ofList [c]) false
    | p => [p]

/-- Parts with neighbouring text that is not quoted put together. -/
def gather : List Part → Word
  | [] => []
  | .text a false :: rest =>
    match gather rest with
    | .text b false :: rest => .text (a ++ b) false :: rest
    | rest => .text a false :: rest
  | p :: rest => p :: gather rest

def sign (c : Char) : Part :=
  .text (String.ofList [c]) false

/-- What stands before the brace that closes, and what after it. -/
def closing (depth : Nat) : List Part → Option (List Part × List Part)
  | [] => none
  | p :: rest =>
    if p = sign '\x7d' then
      if depth = 0 then some ([], rest)
      else (closing (depth - 1) rest).map fun (a, b) => (p :: a, b)
    else
      (closing (if p = sign '\x7b' then depth + 1 else depth) rest).map fun (a, b) => (p :: a, b)

/-- What stands between commas that are in no inner braces. -/
def alternatives (depth : Nat) : List Part → List (List Part)
  | [] => [[]]
  | p :: rest =>
    let depth' :=
      if p = sign '\x7b' then depth + 1 else if p = sign '\x7d' then depth - 1 else depth
    match p = sign ',' && depth = 0, alternatives depth' rest with
    | true, all => [] :: all
    | false, [] => [[p]]
    | false, first :: others => (p :: first) :: others

/-- The text of parts of which all are text that is not quoted. -/
def plain? (ps : List Part) : Option String :=
  ps.foldlM (fun acc p => match p with | .text s false => some (acc ++ s) | _ => none) ""

/-- A number at the end of a sequence, and how many digits it is written with if it starts with a
zero. -/
def bound? (s : String) : Option (Int × Nat) :=
  let cs := s.toList
  let (negative, digits) :=
    match cs with
    | '-' :: rest => (true, rest)
    | '+' :: rest => (false, rest)
    | _ => (false, cs)
  if digits.isEmpty || !digits.all Char.isDigit then none
  else
    let n := Int.ofNat (numberIn 10 digits)
    let width := if digits.head? = some '0' && 1 < digits.length then cs.length else 0
    some (if negative then -n else n, width)

def range (first last stride : Int) : List Int :=
  let stride := if stride = 0 then 1 else stride
  let size : Nat := stride.natAbs
  let count := (last - first).natAbs / size + 1
  (List.range count).map fun i =>
    if first ≤ last then first + Int.ofNat (i * size) else first - Int.ofNat (i * size)

/-- A number with zeros in front. -/
def padded (width : Nat) (n : Int) : String :=
  let digits := toString n.natAbs
  let sign := if n < 0 then "-" else ""
  sign ++ String.ofList (List.replicate (width - sign.length - digits.length) '0') ++ digits

def sequence? (text : String) : Option (List String) := do
  let (first, last, stride) ← (match text.splitOn ".." with
    | [a, b] => some (a, b, "1")
    | [a, b, c] => some (a, b, c)
    | _ => none : Option (String × String × String))
  let (stride, _) ← bound? stride
  match bound? first, bound? last, first.toList, last.toList with
  | some (a, m), some (b, n), _, _ => return (range a b stride).map (padded (max m n))
  | _, _, [a], [b] =>
    if a.isAlpha && b.isAlpha then
      return (range a.toNat b.toNat stride).map fun n => String.ofList [Char.ofNat n.toNat]
    else none
  | _, _, _, _ => none

/-- The rows of parts that a row of parts stands for. -/
def expand : (fuel : Nat) → List Part → List (List Part)
  | 0, ps => [ps]
  | _, [] => [[]]
  | fuel + 1, p :: rest =>
    let literal : List (List Part) := (expand fuel rest).map (p :: ·)
    if p ≠ sign '\x7b' then literal
    else
      match closing 0 rest with
      | none => literal
      | some (inside, after) =>
        let chosen : Option (List (List Part)) :=
          match alternatives 0 inside with
          | [_] => ((plain? inside).bind sequence?).map fun texts =>
              texts.map fun s => [.text s false]
          | all => some (all.flatMap (expand fuel))
        match chosen with
        | none => literal
        | some heads =>
          let tails := expand fuel after
          heads.flatMap fun h => tails.map (h ++ ·)

def words (w : Word) : List Word :=
  if w.any fun p => match p with | .text s false => s.contains '\x7b' | _ => false then
    let ps := spread w
    (expand (ps.length + 1) ps).map gather
  else [w]

end RLanguageHost.Shell.Braces
