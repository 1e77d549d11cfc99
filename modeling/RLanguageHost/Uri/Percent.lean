import RLanguageHost.Text.Utf8

/-!
# Percent-encoding

In a URI a byte may be written as a percent sign and two hexadecimal digits. Each part of a URI has
its own set of ASCII characters that must be written so; what is not ASCII is always written so.
Decoding leaves a percent sign alone that two hexadecimal digits do not follow.
-/

namespace RLanguageHost.Uri

/-- The digit for a number below sixteen. -/
def upperHexDigit (n : Nat) : Char :=
  Char.ofNat (if n < 10 then '0'.toNat + n else 'A'.toNat + (n - 10))

/-- The number of a hexadecimal digit of either case. -/
def hexDigit? (c : Char) : Option Nat :=
  if '0' ≤ c ∧ c ≤ '9' then some (c.toNat - '0'.toNat)
  else if 'a' ≤ c ∧ c ≤ 'f' then some (c.toNat - 'a'.toNat + 10)
  else if 'A' ≤ c ∧ c ≤ 'F' then some (c.toNat - 'A'.toNat + 10)
  else none

def percent (b : UInt8) : List Char :=
  ['%', upperHexDigit (b.toNat / 16), upperHexDigit (b.toNat % 16)]

def isControl (c : Char) : Bool :=
  c.toNat < 0x20 || c.toNat == 0x7F

def inFragmentSet (c : Char) : Bool :=
  isControl c || c == ' ' || c == '"' || c == '<' || c == '>' || c == '`'

def inPathSet (c : Char) : Bool :=
  inFragmentSet c || c == '#' || c == '?' || c == '\x7b' || c == '\x7d'

/-- The characters that are escaped in a name that becomes one segment of a path. -/
def inSegmentSet (c : Char) : Bool :=
  inPathSet c || c == '/' || c == '%' || c == '\\'

/-- The characters that are escaped in a user name or password. -/
def inUserInfoSet (c : Char) : Bool :=
  inPathSet c || c == '/' || c == ':' || c == ';' || c == '=' || c == '@' || c == '[' ||
  c == '\\' || c == ']' || c == '^' || c == '|'

/-- The characters that are escaped in a query; the quote only where the scheme is special. -/
def inQuerySet (special : Bool) (c : Char) : Bool :=
  isControl c || c == ' ' || c == '"' || c == '#' || c == '<' || c == '>' ||
  (special && c == '\x27')

/-- A character, escaped if it is in a set or not ASCII. -/
def encodeChar (inSet : Char → Bool) (c : Char) : List Char :=
  if c.toNat < 0x80 ∧ !inSet c then [c] else (String.utf8EncodeChar c).flatMap percent

def encodeText (inSet : Char → Bool) (text : List Char) : List Char :=
  text.flatMap (encodeChar inSet)

/-- A byte, escaped if it is in a set or not ASCII. -/
def encodeByte (inSet : Char → Bool) (b : UInt8) : List Char :=
  if b < 0x80 ∧ !inSet (Char.ofNat b.toNat) then [Char.ofNat b.toNat] else percent b

def encodeBytes (inSet : Char → Bool) (bs : Bytes) : List Char :=
  bs.flatMap (encodeByte inSet)

/-- The bytes that a text with escapes stands for. -/
def decode : List Char → Bytes
  | [] => []
  | '%' :: a :: b :: rest =>
    match hexDigit? a, hexDigit? b with
    | some high, some low => UInt8.ofNat (high * 16 + low) :: decode rest
    | _, _ => 0x25 :: decode (a :: b :: rest)
  | c :: rest => String.utf8EncodeChar c ++ decode rest
termination_by text => text.length

end RLanguageHost.Uri
