import RLanguageHost.Json.Basic
import RLanguageHost.Json.SyntaxError

/-!
# Reading JSON numbers

A number without fraction and exponent is an integer if 64 bits hold it; `-0` is a floating-point
zero. Every other number keeps the digits that fit into 64 bits as its significand, turns it into
floating point and scales it by one power of ten after another, so its last bit is that of these
roundings. A number whose magnitude is too large for floating point is refused.
-/

namespace RLanguageHost.Json

namespace Number

/-- The largest number that 64 bits hold. -/
def maxWord : Nat := 18446744073709551615

def digitValue (c : Char) : Nat :=
  c.toNat - '0'.toNat

def powerOfTen (n : Nat) : Float :=
  Float.ofScientific 1 false n

/-- Scales by a power of ten between 10^-308 and 10^308 at a time; `none` when the result is too
large. The number of rounds is at most `fuel`. -/
def scale : (fuel : Nat) → Float → Int → Option Float
  | 0, x, _ => some x
  | fuel + 1, x, e =>
    if e.natAbs ≤ 308 then
      if 0 ≤ e then
        let y := x * powerOfTen e.natAbs
        if y.isInf then none else some y
      else some (x / powerOfTen e.natAbs)
    else if x == 0.0 then some x
    else if 0 ≤ e then none
    else scale fuel (x / powerOfTen 308) (e + 308)

/-- The floating-point number `significand * 10 ^ exponent`. -/
def assemble (negative : Bool) (significand : Nat) (exponent : Int) : Except SyntaxError Json :=
  match scale 8 (UInt64.ofNat significand).toFloat exponent with
  | some x => .ok (.float (if negative then -x else x))
  | none => .error .numberTooLarge

/-- Adds digits to a significand while 64 bits hold it. Yields the significand, the number of digits
taken, whether a digit was left over, and the text after all the digits. -/
def takeDigits (significand taken : Nat) : List Char → Nat × Nat × Bool × List Char
  | [] => (significand, taken, false, [])
  | c :: rest =>
    if c.isDigit then
      let grown := significand * 10 + digitValue c
      if grown ≤ maxWord then takeDigits grown (taken + 1) rest
      else (significand, taken, true, c :: rest)
    else (significand, taken, false, c :: rest)

/-- The largest exponent that is told apart from larger ones. -/
def maxExponent : Nat := 2147483647

/-- An integer clamped to 32 bits with sign. -/
def clamp (e : Int) : Int :=
  max (-2147483648) (min 2147483647 e)

/-- The number whose exponent part starts after the letter. -/
def readExponent (negative : Bool) (significand : Nat) (start : Int) (text : List Char) :
    Except SyntaxError (Json × List Char) :=
  let (down, text) :=
    match text with
    | '+' :: rest => (false, rest)
    | '-' :: rest => (true, rest)
    | _ => (false, text)
  match text with
  | [] => .error .endInValue
  | c :: _ =>
    if !c.isDigit then .error .notNumber
    else
      let digits := text.takeWhile Char.isDigit
      let rest := text.dropWhile Char.isDigit
      let exponent := digits.foldl (fun n d => min (maxExponent + 1) (n * 10 + digitValue d)) 0
      if maxExponent < exponent then
        if significand ≠ 0 ∧ !down then .error .numberTooLarge
        else .ok (.float (if negative then -0.0 else 0.0), rest)
      else do
        let total := clamp (if down then start - exponent else start + exponent)
        return (← assemble negative significand total, rest)

/-- What follows the digits of a floating-point number. -/
def readTail (negative : Bool) (significand : Nat) (exponent : Int) (text : List Char) :
    Except SyntaxError (Json × List Char) :=
  match text with
  | 'e' :: rest | 'E' :: rest => readExponent negative significand exponent rest
  | _ => do return (← assemble negative significand exponent, text)

/-- The number whose fraction starts after the point. Digits that 64 bits cannot hold are skipped.
-/
def readFraction (negative : Bool) (significand : Nat) (exponent : Int) (text : List Char) :
    Except SyntaxError (Json × List Char) :=
  let (grown, taken, more, rest) := takeDigits significand 0 text
  if more then
    readTail negative grown (exponent - taken) (rest.dropWhile Char.isDigit)
  else if taken = 0 then
    .error (if rest.isEmpty then .endInValue else .notNumber)
  else readTail negative grown (exponent - taken) rest

/-- An integer that was written without fraction and exponent. -/
def integer (negative : Bool) (magnitude : Nat) : Json :=
  if !negative then .int magnitude
  else if magnitude = 0 ∨ 9223372036854775808 < magnitude then
    .float (-(UInt64.ofNat magnitude).toFloat)
  else .int (-(magnitude : Int))

/-- What follows the digits before the point, all of which the significand holds. -/
def readRest (negative : Bool) (significand : Nat) (text : List Char) :
    Except SyntaxError (Json × List Char) :=
  match text with
  | '.' :: rest => readFraction negative significand 0 rest
  | 'e' :: rest | 'E' :: rest => readExponent negative significand 0 rest
  | _ => .ok (integer negative significand, text)

/-- The number that starts with digits before the point, of which the significand holds only the
first: the others are counted. -/
def readLong (negative : Bool) (significand : Nat) (text : List Char) :
    Except SyntaxError (Json × List Char) :=
  let exponent : Int := (text.takeWhile Char.isDigit).length
  match text.dropWhile Char.isDigit with
  | '.' :: rest => readFraction negative significand exponent rest
  | rest => readTail negative significand exponent rest

def readMagnitude (negative : Bool) (text : List Char) : Except SyntaxError (Json × List Char) :=
  match text with
  | [] => .error .endInValue
  | '0' :: rest =>
    match rest with
    | c :: _ => if c.isDigit then .error .notNumber else readRest negative 0 rest
    | [] => readRest negative 0 rest
  | c :: _ =>
    if !c.isDigit then .error .notNumber
    else
      let (significand, _, more, rest) := takeDigits 0 0 text
      if more then readLong negative significand rest
      else readRest negative significand rest

/-- The number at the start of a text, and the text after it. -/
def read (text : List Char) : Except SyntaxError (Json × List Char) :=
  match text with
  | '-' :: rest => readMagnitude true rest
  | _ => readMagnitude false text

end Number

end RLanguageHost.Json
