/-!
# Machine words in decimal

Whole numbers that fit into 64 bits, written in decimal digits after an optional plus sign.
-/

namespace RLanguageHost.Decimal

/-- The value of a digit. -/
def digitValue (c : Char) : Nat :=
  c.toNat - '0'.toNat

/-- The number that digits stand for, leading zeros allowed. -/
def ofDigits (digits : List Char) : Nat :=
  digits.foldl (fun n c => n * 10 + digitValue c) 0

/-- A text without a plus sign at its start. -/
def dropPlus : List Char → List Char
  | '+' :: rest => rest
  | text => text

/-- One more than the largest machine word. -/
def wordBound : Nat := 18446744073709551616

def word? (text : List Char) : Option Nat :=
  let digits := dropPlus text
  if digits.isEmpty || !digits.all Char.isDigit then none
  else if ofDigits digits < wordBound then some (ofDigits digits)
  else none

end RLanguageHost.Decimal
