/-!
# Durations

Spans of time, counted in nanoseconds, and their text: the largest of the units `s`, `ms`, `µs` and
`ns` of which there is at least one, with the rest as decimals and no zeros at the end.
-/

namespace RLanguageHost

structure Duration where
  nanos : Nat
  deriving Repr, DecidableEq, Inhabited

namespace Duration

def ofMillis (n : Nat) : Duration :=
  ⟨n * 1000000⟩

def ofSeconds (n : Nat) : Duration :=
  ⟨n * 1000000000⟩

/-- The digits of a number that is less than `10 ^ width`, with leading zeros. -/
def paddedDigits : Nat → Nat → List Char
  | 0, _ => []
  | width + 1, n => paddedDigits width (n / 10) ++ [Nat.digitChar (n % 10)]

/-- The digits of a decimal fraction without zeros at the end. -/
def fraction (width n : Nat) : List Char :=
  ((paddedDigits width n).reverse.dropWhile (· == '0')).reverse

/-- A number of units of `10 ^ width` nanoseconds. -/
def inUnit (nanos width : Nat) (unit : String) : String :=
  let digits := fraction width (nanos % Nat.pow 10 width)
  toString (nanos / Nat.pow 10 width)
    ++ (if digits.isEmpty then "" else "." ++ String.ofList digits)
    ++ unit

def text (d : Duration) : String :=
  if 1000000000 ≤ d.nanos then inUnit d.nanos 9 "s"
  else if 1000000 ≤ d.nanos then inUnit d.nanos 6 "ms"
  else if 1000 ≤ d.nanos then inUnit d.nanos 3 "µs"
  else inUnit d.nanos 0 "ns"

end Duration

end RLanguageHost
