/-!
# White space

The characters with the Unicode property `White_Space`, and trimming by them. The property takes in
the line and page breaks, the no-break spaces and the spaces of other scripts, but neither the
zero-width space nor the separators U+001C to U+001F.
-/

namespace RLanguageHost.Text

/-- Whether a character has the Unicode property `White_Space`. -/
def isBlank (c : Char) : Bool :=
  let n := c.toNat
  (0x9 ≤ n && n ≤ 0xD) || n == 0x20 || n == 0x85 || n == 0xA0 || n == 0x1680 ||
  (0x2000 ≤ n && n ≤ 0x200A) || n == 0x2028 || n == 0x2029 || n == 0x202F || n == 0x205F ||
  n == 0x3000

/-- A text without the white space at its start. -/
def trimStart (text : List Char) : List Char :=
  text.dropWhile isBlank

/-- A text without the trailing characters of a class. -/
def dropEndWhile (p : Char → Bool) (text : List Char) : List Char :=
  (text.reverse.dropWhile p).reverse

/-- A text without the white space at either end. -/
def trim (text : List Char) : List Char :=
  dropEndWhile isBlank (trimStart text)

/-- Whether a string holds nothing but white space. -/
def isBlankString (s : String) : Bool :=
  (trim s.toList).isEmpty

/-! ## Texts without their ends -/

variable {p : Char → Bool} {text tail : List Char} {c : Char}

theorem dropEndWhile_append (all : ∀ c ∈ tail, p c = true) :
    dropEndWhile p (text ++ tail) = dropEndWhile p text := by
  rw [dropEndWhile, dropEndWhile, List.reverse_append, List.dropWhile_append_of_pos]
  exact fun c member => all c (List.mem_reverse.mp member)

theorem dropEndWhile_concat (stays : p c = false) : dropEndWhile p (text ++ [c]) = text ++ [c] := by
  rw [dropEndWhile, List.reverse_append, List.reverse_singleton, List.singleton_append,
    List.dropWhile_cons_of_neg (by simp [stays])]
  simp

theorem last_dropEndWhile (kept : dropEndWhile p text = tail ++ [c]) : p c = false := by
  have split := congrArg List.reverse kept
  rw [dropEndWhile, List.reverse_reverse, List.reverse_append] at split
  have first := List.head?_dropWhile_not p text.reverse
  rw [split] at first
  exact first

theorem exists_eq_append_dropEndWhile (p : Char → Bool) (text : List Char) :
    ∃ tail, text = dropEndWhile p text ++ tail ∧ ∀ c ∈ tail, p c = true := by
  refine ⟨(text.reverse.takeWhile p).reverse, ?_, ?_⟩
  · rw [dropEndWhile, ← List.reverse_append, List.takeWhile_append_dropWhile,
      List.reverse_reverse]
  · intro c member
    exact List.all_eq_true.mp List.all_takeWhile c (List.mem_reverse.mp member)

theorem dropEndWhile_congr {q : Char → Bool} (same : ∀ c ∈ text, p c = q c) :
    dropEndWhile p text = dropEndWhile q text := by
  have front (l : List Char) (same : ∀ c ∈ l, p c = q c) : l.dropWhile p = l.dropWhile q := by
    induction l with
    | nil => rfl
    | cons c l ih =>
        rw [List.dropWhile_cons, List.dropWhile_cons, same c List.mem_cons_self,
          ih fun c later => same c (.tail _ later)]
  rw [dropEndWhile, dropEndWhile, front _ fun c member => same c (List.mem_reverse.mp member)]

theorem dropEndWhile_eq_self_iff :
    dropEndWhile p text = text ↔ ∀ c, text.getLast? = some c → p c = false := by
  refine ⟨fun kept c last => ?_, fun stays => ?_⟩
  · obtain ⟨front, rfl⟩ := List.getLast?_eq_some_iff.mp last
    exact last_dropEndWhile kept
  · cases last : text.getLast? with
    | none => rw [List.getLast?_eq_none_iff.mp last]; rfl
    | some c =>
        obtain ⟨front, rfl⟩ := List.getLast?_eq_some_iff.mp last
        exact dropEndWhile_concat (stays c last)

end RLanguageHost.Text
