import RLanguageHost.Frame.Basic

/-!
# Headers of frames

A header announces the length of a body in decimal digits. The digits are read back as the number
they were written for, and the header that `frame` writes announces exactly the length it was given.

The lemmas on white space, lines and colons hold for any text; the header is their instance.
-/

namespace RLanguageHost

namespace Decimal

theorem ofDigits_eq (digits : List Char) : ofDigits digits = Nat.ofDigitChars 10 digits 0 := by
  rw [Nat.ofDigitChars_eq_foldl, ofDigits]
  congr 1
  funext n c
  rw [Nat.mul_comm, digitValue]

theorem isDigit_of_mem_toDigits {n : Nat} {c : Char} (h : c ∈ Nat.toDigits 10 n) : c.isDigit :=
  Nat.isDigit_of_mem_toDigits (by omega) (by omega) h

theorem dropPlus_of_isDigit {text : List Char} (digits : ∀ c ∈ text, c.isDigit) :
    dropPlus text = text := by
  unfold dropPlus
  split
  · exact absurd (digits '+' List.mem_cons_self) (by decide)
  · rfl

/-- A number below the bound is read back from its digits. -/
theorem word?_toDigits {n : Nat} (h : n < wordBound) : word? (Nat.toDigits 10 n) = some n := by
  have digits : ∀ c ∈ Nat.toDigits 10 n, c.isDigit := fun _ => isDigit_of_mem_toDigits
  have value : ofDigits (Nat.toDigits 10 n) = n := by
    rw [ofDigits_eq, Nat.ofDigitChars_ten_toDigits]
  simp only [word?, dropPlus_of_isDigit digits, value]
  rw [if_neg, if_pos h]
  simpa using digits

end Decimal

namespace Text

theorem isBlank_eq_false_of_isDigit {c : Char} (h : c.isDigit) : isBlank c = false := by
  have range : 48 ≤ c.toNat ∧ c.toNat ≤ 57 := by
    simpa [Char.isDigit, UInt32.le_iff_toNat_le] using h
  simp only [isBlank, Bool.or_eq_false_iff, Bool.and_eq_false_iff, decide_eq_false_iff_not,
    beq_eq_false_iff_ne]
  omega

theorem trim_of_forall {text : List Char} (solid : ∀ c ∈ text, isBlank c = false) :
    trim text = text := by
  have start : trimStart text = text := by
    cases text with
    | nil => rfl
    | cons c rest => simp [trimStart, solid c List.mem_cons_self]
  have finish : text.reverse.dropWhile isBlank = text.reverse := by
    cases h : text.reverse with
    | nil => rfl
    | cons c rest =>
        have member : c ∈ text := List.mem_reverse.mp (h ▸ List.mem_cons_self)
        simp [solid c member]
  rw [trim, start, dropEndWhile, finish, List.reverse_reverse]

theorem trim_cons_of_isBlank {c : Char} (h : isBlank c) (text : List Char) :
    trim (c :: text) = trim text := by
  simp [trim, trimStart, h]

end Text

namespace Frame

theorem lines_go_of_not_mem {text : List Char} (h : '\n' ∉ text) (line : List Char) :
    lines.go line text = if line.reverse ++ text = [] then [] else [line.reverse ++ text] := by
  induction text generalizing line with
  | nil => cases line <;> simp [lines.go]
  | cons c rest ih =>
      simp only [List.mem_cons, not_or] at h
      simp only [lines.go, if_neg (Ne.symm h.1), ih h.2]
      simp

/-- A text without newlines is one line. -/
theorem lines_of_not_mem {text : List Char} (h : '\n' ∉ text) (some : text ≠ []) :
    lines text = [text] := by
  rw [lines, lines_go_of_not_mem h]
  simp [some]

theorem splitColon_append {name : List Char} (h : ':' ∉ name) (value : List Char) :
    splitColon (name ++ ':' :: value) = some (name, value) := by
  have others : ∀ c ∈ name, (decide (c ≠ ':')) = true := by
    intro c member
    simp only [decide_eq_true_eq]
    rintro rfl
    exact h member
  rw [splitColon, List.dropWhile_append_of_pos others, List.takeWhile_append_of_pos others]
  simp

theorem header_eq (length : Nat) :
    header length = lengthName.toList ++ ':' :: ' ' :: Nat.toDigits 10 length := by
  simp [header]

theorem not_mem_header {c : Char} (name : c ∉ lengthName.toList ++ [':', ' '])
    (digit : c.isDigit = false) (length : Nat) : c ∉ header length := by
  intro member
  have split : c ∈ (lengthName.toList ++ [':', ' ']) ++ Nat.toDigits 10 length := by
    simpa [header_eq] using member
  rcases List.mem_append.mp split with inName | inDigits
  · exact name inName
  · simp [Decimal.isDigit_of_mem_toDigits inDigits] at digit

theorem lengthValue?_header (length : Nat) :
    lengthValue? (header length) = some (Nat.toDigits 10 length) := by
  have colon : ':' ∉ lengthName.toList := by decide
  have solid : ∀ c ∈ Nat.toDigits 10 length, Text.isBlank c = false := fun c h =>
    Text.isBlank_eq_false_of_isDigit (Decimal.isDigit_of_mem_toDigits h)
  have name : sameIgnoringCase (Text.trim lengthName.toList) lengthName.toList := by decide
  rw [lengthValue?, header_eq, splitColon_append colon]
  simp only [name, if_true, Text.trim_cons_of_isBlank (show Text.isBlank ' ' by decide),
    Text.trim_of_forall solid]

theorem contentLength_header {length : Nat} (h : length ≤ maxLength) :
    contentLength (header length) = .ok length := by
  have newline : '\n' ∉ header length := not_mem_header (by decide) (by decide) length
  have one : lines (header length) = [header length] :=
    lines_of_not_mem newline (by simp [header_eq])
  have word : Decimal.word? (Nat.toDigits 10 length) = some length :=
    Decimal.word?_toDigits (Nat.lt_of_le_of_lt h (by decide))
  simp only [contentLength, one, List.findSome?_cons, lengthValue?_header, lengthOf, word]
  rw [if_neg (Nat.not_lt.mpr h)]

end Frame

end RLanguageHost
