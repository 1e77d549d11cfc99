import RLanguageHost.Decimal.Shortest
import RLanguageHost.Json.Basic

/-!
# Printing JSON

The compact form: no spaces, members in the order in which the value lists them. Strings escape the
quote, the backslash and the controls below U+0020 and nothing else. A floating-point number is
printed with the fewest digits that read back, positionally while its first digit stands between
10^-5 and 10^15, with an exponent otherwise.
-/

namespace RLanguageHost.Json

open Decimal

/-- The first digit's exponents for which a number is written positionally. -/
def isPositional (exponent : Int) : Bool :=
  -5 ≤ exponent && exponent ≤ 15

/-- A positive decimal: positional with a digit on either side of the point, or one digit before the
point and a signed exponent. -/
def decimalText (d : Scaled) : List Char :=
  let digits := Nat.toDigits 10 d.digits
  let lead : Int := d.exponent + digits.length - 1
  if isPositional lead then
    if 0 ≤ d.exponent then digits ++ List.replicate d.exponent.toNat '0' ++ ['.', '0']
    else if 0 ≤ lead then digits.take (lead.toNat + 1) ++ ['.'] ++ digits.drop (lead.toNat + 1)
    else ['0', '.'] ++ List.replicate (-lead - 1).toNat '0' ++ digits
  else
    let fraction := if digits.length = 1 then [] else '.' :: digits.drop 1
    digits.take 1 ++ fraction ++ ['e', if lead < 0 then '-' else '+'] ++
      Nat.toDigits 10 lead.natAbs

/-- A finite floating-point number. -/
def floatText (x : Float) : List Char :=
  let (negative, magnitude) := ofFloat x
  (if negative then ['-'] else []) ++
    match magnitude with
    | none => ['0', '.', '0']
    | some b => decimalText b.shortest

/-- An integer in decimal digits. -/
def intText (n : Int) : List Char :=
  (if n < 0 then ['-'] else []) ++ Nat.toDigits 10 n.natAbs

def escapeChar (c : Char) : List Char :=
  if c = '"' then ['\\', '"']
  else if c = '\\' then ['\\', '\\']
  else if c = '\n' then ['\\', 'n']
  else if c = '\r' then ['\\', 'r']
  else if c = '\t' then ['\\', 't']
  else if c = '\x08' then ['\\', 'b']
  else if c = '\x0c' then ['\\', 'f']
  else if c.toNat < 0x20 then
    let digits := Nat.toDigits 16 c.toNat
    ['\\', 'u'] ++ List.replicate (4 - digits.length) '0' ++ digits
  else [c]

def stringText (s : String) : List Char :=
  ['"'] ++ s.toList.flatMap escapeChar ++ ['"']

mutual

/-- The compact text of a value. -/
def text : Json → List Char
  | .null => ['n', 'u', 'l', 'l']
  | .bool true => ['t', 'r', 'u', 'e']
  | .bool false => ['f', 'a', 'l', 's', 'e']
  | .int n => intText n
  | .float x => floatText x
  | .str s => stringText s
  | .arr items => ['['] ++ itemsText items ++ [']']
  | .obj members => ['\x7b'] ++ membersText members ++ ['\x7d']

/-- Elements with commas between them. -/
def itemsText : List Json → List Char
  | [] => []
  | [item] => text item
  | item :: rest => text item ++ ',' :: itemsText rest

def membersText : List (String × Json) → List Char
  | [] => []
  | [(key, value)] => stringText key ++ ':' :: text value
  | (key, value) :: rest => stringText key ++ ':' :: (text value ++ ',' :: membersText rest)

end

/-- The compact text of a value as a string. -/
def print (value : Json) : String :=
  String.ofList (text value)

end RLanguageHost.Json
