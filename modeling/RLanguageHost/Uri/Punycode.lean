/-!
# Punycode

The spelling of a label of a domain name in ASCII: its ASCII characters, a hyphen if there are any,
and then, as numbers in a mixed base, where the other characters go in increasing order of code
point. Each number counts the places that are skipped since the insertion before it.
-/

namespace RLanguageHost.Uri.Punycode

/-- The number of digits: the letters and then the decimal digits. -/
def base : Nat := 36

def digit (n : Nat) : Char :=
  Char.ofNat (if n < 26 then 'a'.toNat + n else '0'.toNat + (n - 26))

def digitValue? (c : Char) : Option Nat :=
  if 'a' ≤ c ∧ c ≤ 'z' then some (c.toNat - 'a'.toNat)
  else if 'A' ≤ c ∧ c ≤ 'Z' then some (c.toNat - 'A'.toNat)
  else if '0' ≤ c ∧ c ≤ '9' then some (c.toNat - '0'.toNat + 26)
  else none

/-- The least digit that is not the last one of its number, in the place `k`. -/
def threshold (k bias : Nat) : Nat :=
  if k ≤ bias + 1 then 1 else if bias + 26 ≤ k then 26 else k - bias

/-- Divides until the number is small and counts the divisions, at most `fuel` of them. -/
def settle : (fuel k delta : Nat) → Nat
  | 0, k, delta => k + 36 * delta / (delta + 38)
  | fuel + 1, k, delta =>
    if 455 < delta then settle fuel (k + base) (delta / 35) else k + 36 * delta / (delta + 38)

/-- The bias after a number was written, in a label that has `count` characters by then. -/
def adapt (delta count : Nat) (first : Bool) : Nat :=
  let delta := if first then delta / 700 else delta / 2
  settle delta 0 (delta + delta / count)

/-- The digits of a number, the least significant first. -/
def number : (fuel n k bias : Nat) → List Char
  | 0, n, _, _ => [digit n]
  | fuel + 1, n, k, bias =>
    let t := threshold k bias
    if n < t then [digit n]
    else digit (t + (n - t) % (base - t)) :: number fuel ((n - t) / (base - t)) (k + base) bias

/-- What the encoder knows between insertions. -/
structure Encoder where
  /-- The places skipped since the last insertion. -/
  delta : Nat
  bias : Nat
  /-- The number of characters that are placed. -/
  placed : Nat
  output : List Char

/-- Goes through the label once for the code point `point` and places its occurrences. -/
def Encoder.pass (point ascii : Nat) (e : Encoder) (label : List Char) : Encoder :=
  label.foldl (fun e c =>
    if c.toNat < point then { e with delta := e.delta + 1 }
    else if c.toNat = point then
      { delta := 0
        bias := adapt e.delta (e.placed + 1) (e.placed = ascii)
        placed := e.placed + 1
        output := e.output ++ number e.delta e.delta base e.bias }
    else e) e

/-- Places the code points in increasing order; `next` is the first one that may
still come. -/
def Encoder.run (label : List Char) (ascii : Nat) : (points : List Nat) → (next : Nat) → Encoder →
    Encoder
  | [], _, e => e
  | point :: points, next, e =>
    let e := { e with delta := e.delta + (point - next) * (e.placed + 1) }
    let e := e.pass point ascii label
    run label ascii points (point + 1) { e with delta := e.delta + 1 }

/-- The distinct code points above ASCII in increasing order. -/
def pointsOf (label : List Char) : List Nat :=
  ((label.map Char.toNat).filter (0x80 ≤ ·)).mergeSort.eraseDups

def encode (label : List Char) : List Char :=
  let ascii := label.filter (·.toNat < 0x80)
  let start : Encoder :=
    { delta := 0, bias := 72, placed := ascii.length
      output := if ascii.isEmpty then [] else ascii ++ ['-'] }
  (Encoder.run label ascii.length (pointsOf label) 0x80 start).output

/-- Reads one number: its value and the text after it. -/
def readNumber (bias : Nat) : (k weight value : Nat) → List Char → Option (Nat × List Char)
  | _, _, _, [] => none
  | k, weight, value, c :: rest =>
    match digitValue? c with
    | none => none
    | some d =>
      let t := threshold k bias
      let value := value + d * weight
      if d < t then some (value, rest)
      else readNumber bias (k + base) (weight * (base - t)) value rest

/-- Inserts characters until the text is used up, at most `fuel` of them. -/
def insertAll : (fuel point place bias : Nat) → (label text : List Char) → Option (List Char)
  | 0, _, _, _, label, text => if text.isEmpty then some label else none
  | fuel + 1, point, place, bias, label, text =>
    if text.isEmpty then some label
    else
      match readNumber bias base 1 place text with
      | none => none
      | some (value, rest) =>
        let count := label.length + 1
        let bias := adapt (value - place) count (point = 0x80 && place = 0)
        let point := point + value / count
        let place := value % count
        if 0x10FFFF < point ∨ (0xD800 ≤ point ∧ point < 0xE000) then none
        else
          insertAll fuel point (place + 1) bias
            (label.take place ++ Char.ofNat point :: label.drop place) rest

/-- The text up to the last hyphen and the text after it. A text without a hyphen, or with none but
at its start, has nothing before. -/
def splitLastHyphen (text : List Char) : List Char × List Char :=
  let tail := (text.reverse.takeWhile (· ≠ '-')).reverse
  match (text.take (text.length - tail.length)).dropLast with
  | [] => ([], text)
  | front => (front, tail)

/-- The label that a spelling in ASCII stands for. -/
def decode (text : List Char) : Option (List Char) :=
  let (ascii, rest) := splitLastHyphen text
  if text.any (0x80 ≤ ·.toNat) then none
  else insertAll rest.length 0x80 0 72 ascii rest

end RLanguageHost.Uri.Punycode
