/-!
# Sets of code points

A set of code points is given by a table: closed ranges in hexadecimal, in increasing order, with
blanks between them. A set is looked up by halving, so that a long table costs little.
-/

namespace RLanguageHost.Text

def tableWords (table : String) : List (List Char) :=
  let step (c : Char) (words : List (List Char)) : List (List Char) :=
    if c = ' ' ∨ c = '\n' then [] :: words
    else
      match words with
      | [] => [[c]]
      | word :: more => (c :: word) :: more
  (table.toList.foldr step [[]]).filter (!·.isEmpty)

/-- The number that digits of a table spell in hexadecimal. -/
def tableNumber (digits : List Char) : Nat :=
  digits.foldl (fun n c =>
    n * 16 + if c.isDigit then c.toNat - '0'.toNat else c.toNat + 10 - 'A'.toNat) 0

/-- The last entry that starts at or before `n` among those from `low` on and before `high`, where
the entries are in the order of their starts. -/
def lastStart {α : Type} (entries : Array α) (start : α → Nat) (n low high : Nat) : Option α :=
  if high ≤ low + 1 then
    (entries[low]?).filter fun entry => start entry ≤ n
  else
    let middle := (low + high) / 2
    if (entries[middle]?).any fun entry => start entry ≤ n then
      lastStart entries start n middle high
    else lastStart entries start n low middle
termination_by high - low

/-- A set of code points: closed ranges in increasing order. -/
structure CodePoints where
  ranges : Array (Nat × Nat)

namespace CodePoints

def ofTable (table : String) : CodePoints where
  ranges := ((tableWords table).map fun word =>
    let first := word.takeWhile (· ≠ '-')
    let last := (word.dropWhile (· ≠ '-')).drop 1
    (tableNumber first, tableNumber (if last.isEmpty then first else last))).toArray

def has (s : CodePoints) (c : Char) : Bool :=
  (lastStart s.ranges (·.1) c.toNat 0 s.ranges.size).any fun range => c.toNat ≤ range.2

end CodePoints

end RLanguageHost.Text
