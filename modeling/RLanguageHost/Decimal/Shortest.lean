/-!
# The shortest decimal of a binary number

A binary floating-point number stands for an interval of reals: those that round to it. `shortest`
finds the decimal with the fewest digits in that interval and, among those, the one nearest to the
number. It looks at the two neighbours of the number on the grids with one, two, three, … digits,
in exact integer arithmetic; seventeen digits always suffice for a 64-bit number.
-/

namespace RLanguageHost.Decimal

/-- The decimal `digits * 10 ^ exponent`. -/
structure Scaled where
  digits : Nat
  exponent : Int
  deriving Repr, DecidableEq

/-- A positive binary number `mantissa * 2 ^ exponent`. Below a power of two the next smaller number
is only half as far away, which `isPowerBoundary` records. -/
structure Binary where
  mantissa : Nat
  exponent : Int
  isPowerBoundary : Bool
  deriving Repr, DecidableEq

/-- The same decimal without zeros at the end of its digits, of which at most `fuel` are dropped. -/
def Scaled.dropZeros : (fuel : Nat) → Scaled → Scaled
  | 0, d => d
  | fuel + 1, d =>
    if d.digits ≠ 0 ∧ d.digits % 10 = 0 then dropZeros fuel ⟨d.digits / 10, d.exponent + 1⟩ else d

namespace Binary

/-- The numerator of `units * 2 ^ (exponent - 2) / 10 ^ e` over `denominator`. -/
def numerator (b : Binary) (e : Int) (units : Nat) : Nat :=
  units * Nat.pow 2 (b.exponent - 2).toNat * Nat.pow 10 (-e).toNat

/-- The denominator that belongs to `numerator`. -/
def denominator (b : Binary) (e : Int) : Nat :=
  Nat.pow 10 e.toNat * Nat.pow 2 (2 - b.exponent).toNat

/-- Whether `digits * 10 ^ e` rounds to the number. The ends of the interval count when the
mantissa is even. -/
def holds (b : Binary) (e : Int) (digits : Nat) : Bool :=
  let low := b.numerator e (4 * b.mantissa - if b.isPowerBoundary then 1 else 2)
  let high := b.numerator e (4 * b.mantissa + 2)
  let here := digits * b.denominator e
  if b.mantissa % 2 = 0 then low ≤ here && here ≤ high else low < here && here < high

def leadingExponent (b : Binary) : Int :=
  let num := b.numerator 0 (4 * b.mantissa)
  let den := b.denominator 0
  let guess : Int := (Nat.toDigits 10 num).length - (Nat.toDigits 10 den).length
  if den * Nat.pow 10 guess.toNat ≤ num * Nat.pow 10 (-guess).toNat then guess else guess - 1

/-- The decimal on the grid of `10 ^ e` that rounds to the number and is nearest to it; of two
equally near ones the even one. -/
def onGrid? (b : Binary) (e : Int) : Option Nat :=
  let num := b.numerator e (4 * b.mantissa)
  let den := b.denominator e
  let below := num / den
  let above := below + 1
  match b.holds e below, b.holds e above with
  | false, false => none
  | true, false => some below
  | false, true => some above
  | true, true =>
    let left := 2 * (num - below * den)
    some (if left < den then below
      else if den < left then above
      else if below % 2 = 0 then below else above)

/-- The first grid, from `count` digits on and for at most `tries` grids, that holds the number. -/
def search (b : Binary) (lead : Int) : (tries count : Nat) → Scaled
  | 0, count => ⟨b.numerator (lead - count) (4 * b.mantissa) / b.denominator (lead - count),
      lead - count⟩
  | tries + 1, count =>
    match b.onGrid? (lead - count) with
    | some digits => ⟨digits, lead - count⟩
    | none => search b lead tries (count + 1)

/-- The shortest decimal that rounds to the number. -/
def shortest (b : Binary) : Scaled :=
  (search b b.leadingExponent 17 0).dropZeros 18

end Binary

/-- The leading bit of the mantissa of a number that is not very small; it is not stored. -/
def hiddenBit : Nat := 4503599627370496

/-- A finite 64-bit number as its sign and its magnitude; the magnitude of zero is `none`. -/
def ofFloat (x : Float) : Bool × Option Binary :=
  let bits : Nat := x.toBits.toNat
  let fraction : Nat := bits % hiddenBit
  let biased : Nat := bits / hiddenBit % 2048
  let magnitude : Option Binary :=
    if biased = 0 then
      if fraction = 0 then none else some ⟨fraction, -1074, false⟩
    else some ⟨fraction + hiddenBit, (biased : Int) - 1075, fraction == 0 && 1 < biased⟩
  (9223372036854775808 ≤ bits, magnitude)

end RLanguageHost.Decimal
