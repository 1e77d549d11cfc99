import RLanguageHost.Decimal.Printed

/-!
# Numbers in records

Numbers have 64 bits. One is read from the start of a text, as far as the text goes on as a number;
infinity and the lack of a number have names. One is written as a whole number if it is one of at
most 64 bits, and otherwise as a format says.
-/

namespace RLanguageHost.Utility.Records

/-- The largest power of ten that makes a difference to a number. -/
def exponentBound : Nat := 5000

/-- A number of digits, with so many of them after the point, times a power of ten. -/
def ofDigits (digits : List Char) (places : Nat) (power : Int) : Float :=
  let n := digits.foldl (fun n c => n * 10 + (c.toNat - 48)) 0
  let e : Int := power - places
  Float.ofScientific n (e < 0) e.natAbs

/-- The digit that a character stands for in base sixteen. -/
def hexValue? (c : Char) : Option Nat :=
  if c.isDigit then some (c.toNat - 48)
  else if 'a' ≤ c.toLower && c.toLower ≤ 'f' then some (c.toLower.toNat - 87) else none

/-- The decimal number at the start of a text, and what follows it. -/
def decimal? (cs : List Char) : Option (Float × List Char) :=
  let whole := cs.takeWhile Char.isDigit
  let rest := cs.drop whole.length
  let (fraction, rest) :=
    match rest with
    | '.' :: r => (r.takeWhile Char.isDigit, r.dropWhile Char.isDigit)
    | _ => ([], rest)
  if whole.isEmpty && fraction.isEmpty then none
  else
    let digits := whole ++ fraction
    match rest with
    | e :: r =>
      let (negative, ds) :=
        match r with
        | '-' :: ds => (true, ds)
        | '+' :: ds => (false, ds)
        | ds => (false, ds)
      let power := ds.takeWhile Char.isDigit
      if (e = 'e' || e = 'E') && !power.isEmpty then
        let n : Int := min (power.foldl (fun n c => n * 10 + (c.toNat - 48)) 0) exponentBound
        some (ofDigits digits fraction.length (if negative then -n else n), ds.drop power.length)
      else some (ofDigits digits fraction.length 0, rest)
    | [] => some (ofDigits digits fraction.length 0, [])

def notNumber : Float := 0.0 / 0.0

/-- The number at the start of a text without sign, and what follows it. -/
def unsigned? (cs : List Char) : Option (Float × List Char) :=
  let word (n : Nat) : String := String.ofList ((cs.take n).map Char.toLower)
  if word 8 = "infinity" then some (1.0 / 0.0, cs.drop 8)
  else if word 3 = "inf" then some (1.0 / 0.0, cs.drop 3)
  else if word 3 = "nan" then some (notNumber, cs.drop 3)
  else
    match cs with
    | '0' :: x :: c :: rest =>
      if (x = 'x' || x = 'X') && (hexValue? c).isSome then
        let ds := (c :: rest).takeWhile fun c => (hexValue? c).isSome
        some (Float.ofNat (ds.foldl (fun n c => n * 16 + (hexValue? c).getD 0) 0),
          (c :: rest).drop ds.length)
      else decimal? cs
    | _ => decimal? cs

/-- Whether a character separates words. -/
def isGap (c : Char) : Bool :=
  c = ' ' || ('\t' ≤ c && c ≤ '\r')

/-- The number at the start of a text after white space, and what follows it. -/
def number? (cs : List Char) : Option (Float × List Char) :=
  match cs.dropWhile isGap with
  | '-' :: rest => (unsigned? rest).map fun (x, rest) => (-x, rest)
  | '+' :: rest => unsigned? rest
  | rest => unsigned? rest

def valueOfText (s : String) : Float :=
  ((number? s.toList).map (·.1)).getD 0.0

/-- The number that a text spells from end to end. -/
def wholeNumber? (s : String) : Option Float :=
  match s.toList.dropWhile isGap with
  | [] => none
  | c :: rest =>
    if c.isDigit || c = '+' || c = '-' || c = '.' then
      match number? (c :: rest) with
      | some (x, rest) => if rest.all isGap then some x else none
      | none => none
    else none

def isNone (x : Float) : Bool :=
  x.isNaN

def magnitude (x : Float) : Decimal.Ratio :=
  match (Decimal.ofFloat x).2 with
  | none => ⟨0, 1⟩
  | some b => (⟨b.mantissa, 1⟩ : Decimal.Ratio).timesTwo b.exponent

/-- A finite number without its fraction. -/
def truncated (x : Float) : Int :=
  let r := magnitude x
  let n : Int := (r.num / r.den : Nat)
  if x < 0.0 then -n else n

/-- The bound of the numbers of 64 bits. -/
def wordSize : Int := 18446744073709551616

/-- The whole number of 64 bits that a number is written as in a format. The larger half of them is
only for positive numbers. -/
def wordOf (x : Float) : Int :=
  if isNone x then -(wordSize / 2)
  else if x.isInf then (if x < 0.0 then -(wordSize / 2) + 1 else wordSize - 1)
  else
    let n := truncated x
    if n < -(wordSize / 2) then -(wordSize / 2) + 1
    else if wordSize ≤ n then wordSize - 1 else n

/-- The whole number that a number is, if it is one of at most 64 bits. -/
def wordOf? (x : Float) : Option Int :=
  if isNone x || x.isInf || x.floor != x then none
  else
    let n := truncated x
    if -(wordSize / 2) ≤ n && n < wordSize then some n
    else if n = wordSize then some (wordSize - 1) else none

/-- The whole number at which a text is cut. -/
def place (x : Float) : Int :=
  if isNone x then 0
  else if x.isInf || 1e15 < x || x < -1e15 then (if x < 0.0 then -wordSize else wordSize)
  else truncated x

/-- A floating remainder, with the sign of the first number. -/
def remainder (x y : Float) : Float :=
  if isNone x || isNone y || x.isInf || y == 0.0 then notNumber
  else if y.isInf then x
  else
    let a := magnitude x
    let b := magnitude y
    -- both over one denominator, which is a power of two
    let n := a.num * b.den
    let d := b.num * a.den
    let r : Decimal.Ratio := ⟨n % d, a.den * b.den⟩
    let size := Float.ofNat (r.num / Nat.gcd r.num r.den) /
      Float.ofNat (r.den / Nat.gcd r.num r.den)
    if x < 0.0 then -size else size

end RLanguageHost.Utility.Records
