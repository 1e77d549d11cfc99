import RLanguageHost.Decimal.Shortest

/-!
# Decimals with a given number of digits

A number is rounded to a grid of decimals, and of two equally near ones the even one is taken. The
grid is given by the digits after the point, or by the digits in all.

Numbers are fractions of two natural numbers. A number that a text spells is first rounded to the
digits in base two that a machine number has.
-/

namespace RLanguageHost.Decimal

structure Ratio where
  num : Nat
  den : Nat
  deriving Repr, DecidableEq, Inhabited

namespace Ratio

/-- The natural number nearest to a fraction; of two equally near ones the even one. -/
def nearest (r : Ratio) : Nat :=
  let q := r.num / r.den
  let left := 2 * (r.num % r.den)
  if left < r.den then q else if r.den < left then q + 1 else if q % 2 = 0 then q else q + 1

def timesTen (r : Ratio) (e : Int) : Ratio :=
  ⟨r.num * Nat.pow 10 e.toNat, r.den * Nat.pow 10 (-e).toNat⟩

def timesTwo (r : Ratio) (e : Int) : Ratio :=
  ⟨r.num * Nat.pow 2 e.toNat, r.den * Nat.pow 2 (-e).toNat⟩

/-- The exponent of the first decimal digit of a fraction other than zero. -/
def leadingTen (r : Ratio) : Int :=
  let guess : Int := (Nat.toDigits 10 r.num).length - (Nat.toDigits 10 r.den).length
  let scaled := r.timesTen (-guess)
  if scaled.den ≤ scaled.num then guess else guess - 1

/-- The exponent of the first binary digit of a fraction other than zero. -/
def leadingTwo (r : Ratio) : Int :=
  let guess : Int := (Nat.log2 r.num : Int) - (Nat.log2 r.den : Int)
  let scaled := r.timesTwo (-guess)
  if scaled.den ≤ scaled.num then guess else guess - 1

/-- A fraction rounded to so many binary digits. -/
def toBinary (r : Ratio) (digits : Nat) : Ratio :=
  if r.num = 0 then r
  else
    let e : Int := r.leadingTwo - digits + 1
    (⟨(r.timesTwo (-e)).nearest, 1⟩ : Ratio).timesTwo e

/-- Digits with a point before the last ones. -/
def pointed (n places : Nat) (alternative : Bool) : List Char :=
  let ds := Nat.toDigits 10 n
  let ds := List.replicate (places + 1 - ds.length) '0' ++ ds
  let whole := ds.take (ds.length - places)
  if places = 0 then whole ++ (if alternative then ['.'] else [])
  else whole ++ '.' :: ds.drop (ds.length - places)

/-- A fraction with so many digits after the point. -/
def fixed (r : Ratio) (places : Nat) (alternative : Bool) : List Char :=
  pointed (r.timesTen places).nearest places alternative

/-- The digits of a fraction, one before the point and so many after it, and the exponent. -/
def scaled (r : Ratio) (places : Nat) : Nat × Int :=
  if r.num = 0 then (0, 0)
  else
    let x := r.leadingTen
    let n := (r.timesTen (places - x)).nearest
    if n = Nat.pow 10 (places + 1) then (n / 10, x + 1) else (n, x)

/-- An exponent with its sign and at least two digits. -/
def exponentText (x : Int) : List Char :=
  let ds := Nat.toDigits 10 x.natAbs
  'e' :: (if x < 0 then '-' else '+') :: List.replicate (2 - ds.length) '0' ++ ds

/-- A fraction with one digit before the point, so many after it, and an exponent. -/
def scientific (r : Ratio) (places : Nat) (alternative : Bool) : List Char :=
  let (n, x) := r.scaled places
  pointed n places alternative ++ exponentText x

/-- Digits without zeros at the end of a fraction. -/
def withoutZeros (ds : List Char) : List Char :=
  if ds.contains '.' then
    let kept := (ds.reverse.dropWhile (· = '0')).reverse
    if kept.getLast? = some '.' then kept.dropLast else kept
  else ds

/-- A fraction with so many digits in all, written with an exponent if it is very large or small.
-/
def general (r : Ratio) (digits : Nat) (alternative : Bool) : List Char :=
  let digits := max digits 1
  let (n, x) := r.scaled (digits - 1)
  let trim (ds : List Char) : List Char := if alternative then ds else withoutZeros ds
  if -4 ≤ x && x < digits then trim (r.fixed ((digits : Int) - 1 - x).toNat alternative)
  else trim (pointed n (digits - 1) alternative) ++ exponentText x

/-- The number at the start of a text, without sign: digits with a point among them and an exponent
after them, or digits in base sixteen; and what follows it. -/
def ofText? (cs : List Char) : Option (Ratio × List Char) :=
  let digitsOf (l : List Char) : Nat := l.foldl (fun n c => n * 10 + (c.toNat - 48)) 0
  let hex (c : Char) : Option Nat :=
    if c.isDigit then some (c.toNat - 48)
    else if 'a' ≤ c.toLower && c.toLower ≤ 'f' then some (c.toLower.toNat - 87) else none
  match cs with
  | '0' :: 'x' :: c :: rest | '0' :: 'X' :: c :: rest =>
    if (hex c).isSome then
      let ds := (c :: rest).takeWhile fun c => (hex c).isSome
      some (⟨ds.foldl (fun n c => n * 16 + (hex c).getD 0) 0, 1⟩, (c :: rest).drop ds.length)
    else some (⟨0, 1⟩, cs.drop 1)
  | _ =>
    let whole := cs.takeWhile Char.isDigit
    let rest := cs.drop whole.length
    let (fraction, rest) :=
      match rest with
      | '.' :: r => (r.takeWhile Char.isDigit, r.dropWhile Char.isDigit)
      | _ => ([], rest)
    if whole.isEmpty && fraction.isEmpty then none
    else
      let base : Ratio := ⟨digitsOf (whole ++ fraction), Nat.pow 10 fraction.length⟩
      match rest with
      | e :: r =>
        let (negative, ds) :=
          match r with
          | '-' :: ds => (true, ds)
          | '+' :: ds => (false, ds)
          | ds => (false, ds)
        let power := ds.takeWhile Char.isDigit
        if (e = 'e' || e = 'E') && !power.isEmpty then
          let n : Int := min (digitsOf power) 5000
          some (base.timesTen (if negative then -n else n), ds.drop power.length)
        else some (base, rest)
      | [] => some (base, [])

end Ratio

end RLanguageHost.Decimal
