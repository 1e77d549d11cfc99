import RLanguageHost.Json.Number
import RLanguageHost.Text.Utf8

/-!
# Reading JSON

`parse` reads one value and nothing else but white space around it. Of the faults of a text the
first one, from the left, is reported. Arrays and objects may be nested 127 deep.
-/

namespace RLanguageHost.Json

namespace Reader

/-- The nesting that is refused. -/
def maxDepth : Nat := 128

/-- Whether a character may stand between the parts of a text. -/
def isSpace (c : Char) : Bool :=
  c == ' ' || c == '\n' || c == '\t' || c == '\r'

/-- A text without the white space at its start. -/
def skipSpace (text : List Char) : List Char :=
  text.dropWhile isSpace

def expect (word : List Char) (value : Json) (text : List Char) :
    Except SyntaxError (Json × List Char) :=
  match word, text with
  | [], _ => .ok (value, text)
  | _ :: _, [] => .error .endInValue
  | w :: ws, c :: cs => if w = c then expect ws value cs else .error .notWord

def hexValue? (c : Char) : Option Nat :=
  if c.isDigit then some (c.toNat - '0'.toNat)
  else if 'a' ≤ c ∧ c ≤ 'f' then some (c.toNat - 'a'.toNat + 10)
  else if 'A' ≤ c ∧ c ≤ 'F' then some (c.toNat - 'A'.toNat + 10)
  else none

/-- The UTF-16 unit that four hexadecimal digits name. With fewer than four bytes left the text ends
too early, whatever they are. -/
def readUnit (text : List Char) : Except SyntaxError (Nat × List Char) :=
  match text with
  | a :: b :: c :: d :: rest =>
    match hexValue? a, hexValue? b, hexValue? c, hexValue? d with
    | some a, some b, some c, some d => .ok (((a * 16 + b) * 16 + c) * 16 + d, rest)
    | _, _, _, _ => .error .badEscape
  | _ => .error (if (Utf8.encode text).length < 4 then .endInString else .badEscape)

/-- The character of an escape, from the letter `u` on. Characters beyond the basic plane are
written as two units. -/
def readUnicode (text : List Char) : Except SyntaxError (Char × List Char) := do
  let (high, rest) ← readUnit text
  if 0xDC00 ≤ high ∧ high ≤ 0xDFFF then .error .loneHalf
  else if high < 0xD800 ∨ 0xDBFF < high then .ok (Char.ofNat high, rest)
  else
    match rest with
    | [] => .error .endInString
    | c :: rest =>
      if c ≠ '\\' then .error .missingHalf
      else
        match rest with
        | [] => .error .endInString
        | c :: rest =>
          if c ≠ 'u' then .error .missingHalf
          else do
            let (low, rest) ← readUnit rest
            if 0xDC00 ≤ low ∧ low ≤ 0xDFFF then
              .ok (Char.ofNat (0x10000 + (high - 0xD800) * 0x400 + (low - 0xDC00)), rest)
            else .error .loneHalf

/-- The character of an escape, from the character after the backslash on. -/
def readEscape (text : List Char) : Except SyntaxError (Char × List Char) :=
  match text with
  | [] => .error .endInString
  | c :: rest =>
    match c with
    | '"' => .ok ('"', rest)
    | '\\' => .ok ('\\', rest)
    | '/' => .ok ('/', rest)
    | 'b' => .ok ('\x08', rest)
    | 'f' => .ok ('\x0c', rest)
    | 'n' => .ok ('\n', rest)
    | 'r' => .ok ('\r', rest)
    | 't' => .ok ('\t', rest)
    | 'u' => readUnicode rest
    | _ => .error .badEscape

/-- The rest of a string after its opening quote. `read` holds the characters read so far, the last
one first; `fuel` bounds the number of characters. -/
def readString : (fuel : Nat) → (read : List Char) → List Char →
    Except SyntaxError (String × List Char)
  | 0, _, _ => .error .endInString
  | _ + 1, _, [] => .error .endInString
  | fuel + 1, read, c :: rest =>
    if c = '"' then .ok (String.ofList read.reverse, rest)
    else if c = '\\' then do
      let (c, rest) ← readEscape rest
      readString fuel (c :: read) rest
    else if c.toNat < 0x20 then .error .control
    else readString fuel (c :: read) rest

/-- The string after an opening quote. -/
def string (text : List Char) : Except SyntaxError (String × List Char) :=
  readString (text.length + 1) [] text

/-- Reads on to the next element of an array or member of an object: past the comma, unless this is
the `first`. Yields `none` at the closing bracket. The faults say what is found at the end of the
text and in the place of a comma. -/
def separator (first : Bool) (close : Char) (atEnd other : SyntaxError) (text : List Char) :
    Except SyntaxError (Option Unit × List Char) :=
  match skipSpace text with
  | [] => .error atEnd
  | c :: rest =>
    if c = close then .ok (none, rest)
    else if first then .ok (some (), c :: rest)
    else if c = ',' then
      match skipSpace rest with
      | [] => .error .endInValue
      | c :: rest => if c = close then .error .trailingComma else .ok (some (), c :: rest)
    else .error other

def nextItem (first : Bool) (text : List Char) : Except SyntaxError (Option Unit × List Char) :=
  separator first ']' .endInList .notListEnd text

def nextMember (first : Bool) (text : List Char) : Except SyntaxError (Option Unit × List Char) :=
  separator first '\x7d' .endInObject .notObjectEnd text

/-- A member's key. -/
def name (text : List Char) : Except SyntaxError (String × List Char) :=
  match text with
  | '"' :: rest => string rest
  | _ => .error .notKey

/-- Reads on past the colon after a member's key. -/
def colon (text : List Char) : Except SyntaxError (List Char) :=
  match skipSpace text with
  | ':' :: rest => .ok rest
  | [] => .error .endInObject
  | _ => .error .notColon

/-- A member's key and the colon after it. -/
def key (text : List Char) : Except SyntaxError (String × List Char) := do
  let (name, rest) ← name text
  return (name, ← colon rest)

mutual

/-- The value at the start of a text. `depth` is the nesting that is still allowed. -/
def value : (fuel depth : Nat) → List Char → Except SyntaxError (Json × List Char)
  | 0, _, _ => .error .endInValue
  | fuel + 1, depth, text =>
    match skipSpace text with
    | [] => .error .endInValue
    | c :: rest =>
      match c with
      | 'n' => expect ['u', 'l', 'l'] .null rest
      | 't' => expect ['r', 'u', 'e'] (.bool true) rest
      | 'f' => expect ['a', 'l', 's', 'e'] (.bool false) rest
      | '"' => do
        let (s, rest) ← string rest
        .ok (.str s, rest)
      | '[' =>
        if depth ≤ 1 then .error .tooDeep
        else do
          let (read, rest) ← items fuel (depth - 1) true [] rest
          .ok (.arr read, rest)
      | '\x7b' =>
        if depth ≤ 1 then .error .tooDeep
        else do
          let (read, rest) ← members fuel (depth - 1) true [] rest
          .ok (.obj read, rest)
      | _ => if c = '-' ∨ c.isDigit then Number.read (c :: rest) else .error .notValue

/-- The elements up to the closing bracket, after those of `read`, which are in reverse order. -/
def items : (fuel depth : Nat) → (first : Bool) → (read : List Json) → List Char →
    Except SyntaxError (List Json × List Char)
  | 0, _, _, _, _ => .error .endInList
  | fuel + 1, depth, first, read, text => do
    match ← nextItem first text with
    | (none, rest) => .ok (read.reverse, rest)
    | (some (), rest) =>
      let (item, rest) ← value fuel depth rest
      items fuel depth false (item :: read) rest

/-- The members up to the closing brace, after those of `read`, which are in reverse order. -/
def members : (fuel depth : Nat) → (first : Bool) → (read : List (String × Json)) → List Char →
    Except SyntaxError (List (String × Json) × List Char)
  | 0, _, _, _, _ => .error .endInObject
  | fuel + 1, depth, first, read, text => do
    match ← nextMember first text with
    | (none, rest) => .ok (read.reverse, rest)
    | (some (), rest) =>
      let (name, rest) ← key rest
      let (item, rest) ← value fuel depth rest
      members fuel depth false ((name, item) :: read) rest

end

/-- Fuel that suffices for every value in a text. -/
def fuelFor (text : List Char) : Nat :=
  2 * text.length + 4

end Reader

/-- The value that a text holds, with the members of objects in the order of the text. -/
def parseText (text : List Char) : Except SyntaxError Json := do
  let (value, rest) ← Reader.value (Reader.fuelFor text) Reader.maxDepth text
  if (Reader.skipSpace rest).isEmpty then .ok value else .error .trailingText

/-- The value that a string holds, in normal form. -/
def parse (s : String) : Except SyntaxError Json :=
  normalize <$> parseText s.toList

end RLanguageHost.Json
