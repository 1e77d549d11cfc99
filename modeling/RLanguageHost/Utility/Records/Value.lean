import RLanguageHost.Shell.Format
import RLanguageHost.Utility.Records.Number
import RLanguageHost.Utility.Records.Program

/-!
# Values of records

A value is a number or a text. A text from an input counts as a number wherever it looks like one,
and what has never been assigned counts as both nothing and zero.

Numbers become texts by a format, unless they are whole. A format takes its values in order, and
lacks none of them.
-/

namespace RLanguageHost.Utility.Records

inductive Value where
  | unset
  | number (x : Float)
  | text (s : String)
  /-- A text that counts as a number if it looks like one. -/
  | input (s : String)
  deriving Repr, Inhabited

inductive FormatFault where
  | tooFew
  | conversion (number : Nat)
  deriving Repr, DecidableEq, Inhabited

/-- A finite number or another one as a directive writes it. -/
def writtenNumber (d : Shell.Format.Directive) (x : Float) : List Char :=
  if isNone x || x.isInf then
    let d := { d with flags := d.flags.filter (· ≠ '0') }
    let word := if isNone x then "-nan" else if x < 0.0 then "-inf" else "inf"
    let word := if d.conversion.isUpper then word.toUpper else word
    Shell.Format.pad d word.toList
  else Shell.Format.fraction d (Decimal.ofFloat x).1 (magnitude x)

/-- A number as a format for one number writes it. -/
def formatted (format : String) (x : Float) : String :=
  let cs := format.toList
  let lead := cs.takeWhile (· ≠ '%')
  match Shell.Format.directive .program (cs.drop (lead.length + 1)) { arguments := [] } with
  | (some (d, rest), _, _) =>
    let body := if "eEfFgG".toList.contains d.conversion then writtenNumber d x
      else Shell.Format.integer { d with conversion := 'd' } (wordOf x)
    String.ofList (lead ++ body ++ rest)
  | _ => format

namespace Value

def ofNumber (format : String) (x : Float) : String :=
  match wordOf? x with
  | some n => toString n
  | none => formatted format x

def render (format : String) : Value → String
  | .unset => ""
  | .number x => ofNumber format x
  | .text s | .input s => s

def toNumber : Value → Float
  | .unset => 0.0
  | .number x => x
  | .text s | .input s => valueOfText s

def asNumber? : Value → Option Float
  | .unset => some 0.0
  | .number x => some x
  | .text _ => none
  | .input s => wholeNumber? s

def isTrue : Value → Bool
  | .unset => false
  | .number x => x != 0.0
  | .text s => s ≠ ""
  | .input s =>
    match wholeNumber? s with
    | some x => x != 0.0
    | none => s ≠ ""

def ofBool (b : Bool) : Value :=
  .number (if b then 1.0 else 0.0)

def ofNat (n : Nat) : Value :=
  .number (Float.ofNat n)

/-- Compares two values: as numbers if both count as such, and otherwise as texts. -/
def compare (format : String) (c : Comparison) (a b : Value) : Bool :=
  match a.asNumber?, b.asNumber? with
  | some x, some y =>
    match c with
    | .less => x < y
    | .atMost => x ≤ y
    | .same => x == y
    | .different => x != y
    | .more => y < x
    | .atLeast => y ≤ x
  | _, _ =>
    let x := a.render format
    let y := b.render format
    match c with
    | .less => x < y
    | .atMost => !(y < x)
    | .same => x = y
    | .different => x ≠ y
    | .more => y < x
    | .atLeast => !(x < y)

def calculate (o : Operation) (x y : Float) : Float :=
  match o with
  | .add => x + y
  | .subtract => x - y
  | .multiply => x * y
  | .divide => x / y
  | .remainder => remainder x y
  | .power => Float.pow x y

def written (format : String) (d : Shell.Format.Directive) (v : Value) : Option (List Char) :=
  let cut (t : List Char) : List Char := (d.precision.map t.take).getD t
  match d.conversion with
  | 's' => some (Shell.Format.pad d (cut (v.render format).toList))
  | 'c' =>
    let c : List Char :=
      match v, v.asNumber? with
      | .number x, _ | .input _, some x => [Char.ofNat (wordOf x % 256).toNat]
      | v, _ => [(v.render format).toList.headD '\x00']
    some (Shell.Format.pad d c)
  | 'd' | 'i' | 'o' | 'x' | 'X' | 'u' =>
    let n := wordOf v.toNumber
    some (Shell.Format.integer d n)
  | 'e' | 'E' | 'f' | 'F' | 'g' | 'G' => some (writtenNumber d v.toNumber)
  | _ => none

/-- Replaces stars in a format by numbers. -/
def starred (p : List Value) : List Char → List Char × List Value
  | [] => ([], p)
  | '*' :: rest =>
    let n := (p.head?.map fun v => truncated v.toNumber).getD 0
    let (cs, p) := starred (p.drop 1) rest
    ((toString n).toList ++ cs, p)
  | c :: rest =>
    if "-+ #0123456789.hlLqjtz".toList.contains c then
      let (cs, p) := starred p rest
      (c :: cs, p)
    else (c :: rest, p)

/-- What a format makes of values: what was written before a fault, and the fault. -/
def format (convert : String) : (fuel : Nat) → (number : Nat) → List Char → List Value →
    List Char × Option FormatFault
  | 0, _, _, _ => ([], none)
  | _, _, [], _ => ([], none)
  | fuel + 1, n, '%' :: '%' :: rest, vs =>
    let (cs, fault) := format convert fuel n rest vs
    ('%' :: cs, fault)
  | fuel + 1, n, '%' :: rest, vs =>
    match vs with
    | [] => ([], some .tooFew)
    | vs =>
      let (rest, vs) := starred vs rest
      match Shell.Format.directive .program rest { arguments := [] }, vs with
      | _, [] => ([], some .tooFew)
      | (none, _, _), _ => ([], some (.conversion n))
      | (some (d, after), _, _), v :: vs =>
        match v.written convert d with
        | none => ([], some (.conversion n))
        | some out =>
          let (cs, fault) := format convert fuel (n + 1) after vs
          (out ++ cs, fault)
  | fuel + 1, n, c :: rest, vs =>
    let (cs, fault) := format convert fuel n rest vs
    (c :: cs, fault)

end Value

end RLanguageHost.Utility.Records
