import RLanguageHost.Proofs.Text.Decoding

/-!
# Decoding whatever comes

A stream need not be well formed. `decided` is the text that `drain` hands out for some bytes, and
`undecided` are the bytes that it keeps. Both go along with `front`, one character or malformed
sequence after another, however `drain` groups them (`decided_of_char` and so on), so a stream may
be cut anywhere (`decided_append`).

`lossy` differs at the end only: a character that is cut there counts as malformed. It is malformed
in a longer stream too, if a byte follows it that starts a sequence (`decided_append_start`).
-/

namespace RLanguageHost.Utf8

/-- The text that is handed out for some bytes. -/
def decided (bs : Bytes) : List Char :=
  (drain bs).1.flatten

/-- The bytes that are kept back until more come. -/
def undecided (bs : Bytes) : Bytes :=
  (drain bs).2

variable {bs rest : Bytes} {c : Char}

/-! ## One character after another -/

theorem wellFormedPrefix_of_char (h : front bs = .char c rest) :
    wellFormedPrefix bs = (c :: (wellFormedPrefix rest).1, (wellFormedPrefix rest).2) := by
  rw [wellFormedPrefix]
  split <;> simp_all

theorem wellFormedPrefix_of_ne_char (h : ∀ c rest, front bs ≠ .char c rest) :
    wellFormedPrefix bs = ([], bs) := by
  rw [wellFormedPrefix]
  split <;> simp_all

theorem drain_of_next {text : List Char} (h : next bs = some (text, rest)) :
    decided bs = text ++ decided rest ∧ undecided bs = undecided rest := by
  unfold decided undecided
  rw [drain]
  split
  · next nothing => cases nothing.symm.trans h
  · next text' rest' handed =>
    cases handed.symm.trans h
    exact ⟨rfl, rfl⟩

theorem drain_of_next_eq_none (h : next bs = none) : decided bs = [] ∧ undecided bs = bs := by
  unfold decided undecided
  rw [drain]
  split
  · exact ⟨rfl, rfl⟩
  · next handed => cases h.symm.trans handed

/-- The well-formed beginning may be handed out first, also if it is empty. -/
theorem drain_wellFormedPrefix (bs : Bytes) :
    decided bs = (wellFormedPrefix bs).1 ++ decided (wellFormedPrefix bs).2 ∧
      undecided bs = undecided (wellFormedPrefix bs).2 := by
  by_cases first : ∃ c rest, front bs = .char c rest
  · obtain ⟨c, rest, first⟩ := first
    refine drain_of_next ?_
    rw [next, wellFormedPrefix_of_char first]
  · have none : wellFormedPrefix bs = ([], bs) :=
      wellFormedPrefix_of_ne_char fun c rest here => first ⟨c, rest, here⟩
    rw [none]
    exact ⟨rfl, rfl⟩

theorem decided_of_char (h : front bs = .char c rest) :
    decided bs = c :: decided rest ∧ undecided bs = undecided rest := by
  obtain ⟨text, left⟩ := drain_wellFormedPrefix bs
  obtain ⟨text', left'⟩ := drain_wellFormedPrefix rest
  rw [wellFormedPrefix_of_char h] at text left
  rw [text, left, text', left']
  exact ⟨rfl, rfl⟩

theorem decided_of_malformed (h : front bs = .malformed rest) :
    decided bs = replacement :: decided rest ∧ undecided bs = undecided rest := by
  have none : wellFormedPrefix bs = ([], bs) :=
    wellFormedPrefix_of_ne_char fun c rest' here => by cases h.symm.trans here
  have handed : next bs = some ([replacement], rest) := by
    rw [next, none]
    simp only [h]
  exact drain_of_next handed

theorem decided_of_cut (h : front bs = .cut) : decided bs = [] ∧ undecided bs = bs := by
  have none : wellFormedPrefix bs = ([], bs) :=
    wellFormedPrefix_of_ne_char fun c rest' here => by cases h.symm.trans here
  refine drain_of_next_eq_none ?_
  rw [next, none]
  simp only [h]

@[simp] theorem decided_nil : decided [] = [] :=
  (drain_of_next_eq_none next_nil).1

@[simp] theorem undecided_nil : undecided [] = [] :=
  (drain_of_next_eq_none next_nil).2

/-- A stream may be cut anywhere: what is kept back is put before what comes next. -/
theorem decided_append (bs more : Bytes) :
    decided (bs ++ more) = decided bs ++ decided (undecided bs ++ more) ∧
      undecided (bs ++ more) = undecided (undecided bs ++ more) := by
  fun_induction lossy bs with
  | case1 bs empty =>
      rw [front_eq_empty_iff.mp empty]
      simp
  | case2 bs c rest first ih =>
      obtain ⟨text, left⟩ := decided_of_char first
      obtain ⟨text', left'⟩ := decided_of_char (front_append_of_char first more)
      rw [text, left, text', left', ih.1, ih.2]
      exact ⟨rfl, rfl⟩
  | case3 bs rest first ih =>
      obtain ⟨text, left⟩ := decided_of_malformed first
      obtain ⟨text', left'⟩ := decided_of_malformed (front_append_of_malformed first more)
      rw [text, left, text', left', ih.1, ih.2]
      exact ⟨rfl, rfl⟩
  | case4 bs cut =>
      obtain ⟨text, left⟩ := decided_of_cut cut
      rw [text, left]
      exact ⟨rfl, rfl⟩

theorem decided_encode_append (text : List Char) (bs : Bytes) :
    decided (encode text ++ bs) = text ++ decided bs ∧
      undecided (encode text ++ bs) = undecided bs := by
  induction text with
  | nil => exact ⟨rfl, rfl⟩
  | cons c text ih =>
      have first : front (encode (c :: text) ++ bs) = .char c (encode text ++ bs) := by
        rw [encode_cons, List.append_assoc]
        exact front_encodeChar c _
      obtain ⟨handed, left⟩ := decided_of_char first
      rw [handed, left, ih.1, ih.2]
      exact ⟨rfl, rfl⟩

theorem decided_encode (text : List Char) :
    decided (encode text) = text ∧ undecided (encode text) = [] := by
  have whole := decided_encode_append text []
  rwa [List.append_nil, decided_nil, undecided_nil, List.append_nil] at whole

/-! ## Pieces -/

theorem ne_nil_of_next {buffer rest : Bytes} {text : List Char}
    (h : next buffer = some (text, rest)) : text ≠ [] := by
  unfold next at h
  split at h
  · cases h
    exact List.cons_ne_nil _ _
  · split at h
    · cases h
      exact List.cons_ne_nil _ _
    · cases h

theorem ne_nil_of_mem_drain {buffer : Bytes} {text : List Char} (h : text ∈ (drain buffer).1) :
    text ≠ [] := by
  fun_induction drain buffer with
  | case1 => cases h
  | case2 buffer first rest handed more left _ ih =>
      rcases List.mem_cons.mp h with rfl | later
      · exact ne_nil_of_next handed
      · exact ih (by simp_all)

/-- Every piece takes a byte at least. -/
theorem length_drain_le (buffer : Bytes) :
    (drain buffer).1.length + (drain buffer).2.length ≤ buffer.length := by
  fun_induction drain buffer with
  | case1 => simp
  | case2 buffer first rest handed more left drained ih =>
      have shorter := length_lt_of_next handed
      simp only [drained] at ih
      simp only [List.length_cons]
      omega

/-! ## Malformed sequences -/

/-- The text of any byte string is what is decided, and one U+FFFD for what is kept back. -/
theorem lossy_eq (bs : Bytes) :
    lossy bs = decided bs ++ if undecided bs = [] then [] else [replacement] := by
  fun_induction lossy bs with
  | case1 bs empty => rw [front_eq_empty_iff.mp empty]; simp
  | case2 bs c rest first ih =>
      obtain ⟨text, left⟩ := decided_of_char first
      rw [text, left, ih]
      rfl
  | case3 bs rest first ih =>
      obtain ⟨text, left⟩ := decided_of_malformed first
      rw [text, left, ih]
      rfl
  | case4 bs cut =>
      obtain ⟨text, left⟩ := decided_of_cut cut
      have some : bs ≠ [] := by
        rintro rfl
        cases cut
      rw [text, left, if_neg some]
      rfl

theorem lossy_encode_append (text : List Char) (bs : Bytes) :
    lossy (encode text ++ bs) = text ++ lossy bs := by
  obtain ⟨handed, left⟩ := decided_encode_append text bs
  rw [lossy_eq, handed, left, List.append_assoc, ← lossy_eq]

theorem lossy_encode (text : List Char) : lossy (encode text) = text := by
  obtain ⟨handed, left⟩ := decided_encode text
  rw [lossy_eq, handed, if_pos left, List.append_nil]

theorem isTail_of_isSecond {first b : UInt8} (second : isSecond first b) : isTail b := by
  rw [isSecond_iff] at second
  rw [isTail_iff]
  repeat' split at second
  all_goals omega

/-- A character that is cut becomes malformed where a byte follows that starts a sequence. -/
theorem front_append_of_cut (h : front bs = .cut) {a : UInt8} (starts : isTail a = false)
    (rest : Bytes) : front (bs ++ a :: rest) = .malformed (a :: rest) := by
  have notSecond : ∀ first, isSecond first a = false := fun first =>
    Bool.eq_false_iff.mpr fun second => by
      rw [isTail_of_isSecond second] at starts
      cases starts
  unfold front at h ⊢
  split at h
  · cases h
  · repeat' split at h
    all_goals cases h
    all_goals simp_all

/-- A byte that starts a sequence lets all bytes before it be decided. -/
theorem decided_append_start (bs : Bytes) {a : UInt8} (starts : isTail a = false) (rest : Bytes) :
    decided (bs ++ a :: rest) = lossy bs ++ decided (a :: rest) ∧
      undecided (bs ++ a :: rest) = undecided (a :: rest) := by
  fun_induction lossy bs with
  | case1 bs empty =>
      rw [front_eq_empty_iff.mp empty]
      exact ⟨rfl, rfl⟩
  | case2 bs c tail first ih =>
      obtain ⟨text, left⟩ := decided_of_char (front_append_of_char first (a :: rest))
      rw [text, left, ih.1, ih.2]
      exact ⟨rfl, rfl⟩
  | case3 bs tail first ih =>
      obtain ⟨text, left⟩ := decided_of_malformed (front_append_of_malformed first (a :: rest))
      rw [text, left, ih.1, ih.2]
      exact ⟨rfl, rfl⟩
  | case4 bs cut =>
      obtain ⟨text, left⟩ := decided_of_malformed (front_append_of_cut cut starts rest)
      rw [text, left]
      exact ⟨rfl, rfl⟩

theorem lossy_append_start (bs : Bytes) {a : UInt8} (starts : isTail a = false) (rest : Bytes) :
    lossy (bs ++ a :: rest) = lossy bs ++ lossy (a :: rest) := by
  obtain ⟨text, left⟩ := decided_append_start bs starts rest
  rw [lossy_eq, text, left, List.append_assoc, ← lossy_eq]

/-! ## Well-formed byte strings -/

theorem wellFormedPrefix_of_decode? {text : List Char} (h : decode? bs = some text) :
    wellFormedPrefix bs = (text, []) := by
  fun_induction decode? bs generalizing text with
  | case1 bs empty =>
      cases h
      rw [front_eq_empty_iff.mp empty]
      exact wellFormedPrefix_of_ne_char (by simp [front])
  | case2 bs c rest first ih =>
      obtain ⟨text, decoded, rfl⟩ := Option.map_eq_some_iff.mp h
      rw [wellFormedPrefix_of_char first, ih decoded]
  | case3 | case4 => cases h

theorem wellFormedPrefix_of_decode?_eq_none (h : decode? bs = none) :
    front (wellFormedPrefix bs).2 = .cut ∨
      ∃ tail, front (wellFormedPrefix bs).2 = .malformed tail := by
  fun_induction decode? bs with
  | case1 => cases h
  | case2 bs c rest first ih =>
      rw [wellFormedPrefix_of_char first]
      exact ih (Option.map_eq_none_iff.mp h)
  | case3 bs tail first =>
      rw [wellFormedPrefix_of_ne_char (by simp [first])]
      exact .inr ⟨tail, first⟩
  | case4 bs cut =>
      rw [wellFormedPrefix_of_ne_char (by simp [cut])]
      exact .inl cut

theorem fault?_of_decode? {text : List Char} (h : decode? bs = some text) : fault? bs = none := by
  rw [fault?, wellFormedPrefix_of_decode? h]
  rfl

theorem exists_fault?_of_decode?_eq_none (h : decode? bs = none) :
    ∃ fault, fault? bs = some fault := by
  rw [fault?]
  rcases wellFormedPrefix_of_decode?_eq_none h with cut | ⟨tail, malformed⟩
  · rw [cut]
    exact ⟨_, rfl⟩
  · rw [malformed]
    exact ⟨_, rfl⟩

end RLanguageHost.Utf8
