import RLanguageHost.Proofs.Text.Lossy

/-!
# Sequences of bytes

What decoding means, said with the encoder alone. Bytes *begin* a character if its encoding starts
with them and goes on. A malformed sequence is one to which no continuation brings a character, and
it is as long as what begins one, or a single byte. `Decodes` reads bytes as characters and
malformed sequences, up to bytes at the end that begin a character and need more.

Every byte string reads as one text and one such end: `decided` and `undecided` (`decodes_iff`).
-/

namespace RLanguageHost.Utf8

/-- The encoding of some character starts with the bytes, and goes on after them. -/
def Begins (bs : Bytes) : Prop :=
  ∃ (c : Char) (more : Bytes), more ≠ [] ∧ String.utf8EncodeChar c = bs ++ more

/-- A sequence that is wrong whatever follows the bytes after it: the longest one there that begins
a character, or one byte. -/
structure Malformed (bad rest : Bytes) : Prop where
  some : bad ≠ []
  hopeless : ∀ more c tail, bad ++ rest ++ more ≠ String.utf8EncodeChar c ++ tail
  begins : bad.length = 1 ∨ Begins bad
  longest : ∀ front, front <+: bad ++ rest → Begins front → front.length ≤ bad.length

/-- The bytes read as a text, with one U+FFFD in the place of each malformed sequence, and bytes at
the end that only begin a character. -/
inductive Decodes : Bytes → List Char → Bytes → Prop where
  | tail {bs : Bytes} (begins : Begins bs) : Decodes bs [] bs
  | char {rest : Bytes} {text : List Char} {left : Bytes} (c : Char)
      (later : Decodes rest text left) :
      Decodes (String.utf8EncodeChar c ++ rest) (c :: text) left
  | malformed {bad rest : Bytes} {text : List Char} {left : Bytes} (wrong : Malformed bad rest)
      (later : Decodes rest text left) : Decodes (bad ++ rest) (replacement :: text) left

variable {bs rest bad left : Bytes} {text : List Char} {c : Char}

/-! ## Characters -/

theorem toNat_val_ofNat {n : Nat} (valid : n.isValidChar) : (Char.ofNat n).val.toNat = n := by
  rw [Char.ofNat, dif_pos valid]
  rfl

theorem ofNat_eq {a : UInt8} {n : Nat} (same : n = a.toNat) : UInt8.ofNat n = a := by
  rw [same, UInt8.ofNat_toNat]

theorem width_eq_one_iff {a : UInt8} : width a = 1 ↔ a.toNat < 0x80 := by
  rw [width_eq]
  repeat' split
  all_goals omega

theorem width_eq_two_iff {a : UInt8} : width a = 2 ↔ 0xC2 ≤ a.toNat ∧ a.toNat < 0xE0 := by
  rw [width_eq]
  repeat' split
  all_goals omega

theorem width_eq_three_iff {a : UInt8} : width a = 3 ↔ 0xE0 ≤ a.toNat ∧ a.toNat < 0xF0 := by
  rw [width_eq]
  repeat' split
  all_goals omega

theorem width_eq_four_iff {a : UInt8} : width a = 4 ↔ 0xF0 ≤ a.toNat ∧ a.toNat < 0xF5 := by
  rw [width_eq]
  repeat' split
  all_goals omega

theorem width_cases (a : UInt8) :
    width a = 0 ∨ width a = 1 ∨ width a = 2 ∨ width a = 3 ∨ width a = 4 := by
  rw [width_eq]
  repeat' split
  all_goals simp

theorem encodeChar_one {a : UInt8} (wide : width a = 1) :
    String.utf8EncodeChar (Char.ofNat a.toNat) = [a] := by
  rw [width_eq_one_iff] at wide
  have number : (Char.ofNat a.toNat).val.toNat = a.toNat := toNat_val_ofNat (.inl (by omega))
  rw [String.utf8EncodeChar, number, if_pos (by omega), UInt8.ofNat_toNat]

theorem encodeChar_two {a b : UInt8} (wide : width a = 2) (second : isSecond a b) :
    String.utf8EncodeChar (scalar2 a b) = [a, b] := by
  have trail := isTail_iff.mp (isTail_of_isSecond second)
  rw [width_eq_two_iff] at wide
  have number : (scalar2 a b).val.toNat = a.toNat % 32 * 64 + b.toNat % 64 :=
    toNat_val_ofNat (.inl (by omega))
  rw [String.utf8EncodeChar, number, if_neg (by omega), if_pos (by omega),
    ofNat_eq (a := a) (by omega), ofNat_eq (a := b) (by omega)]

/-- The second byte keeps the number above those of two bytes and out of the surrogates. -/
theorem encodeChar_three {a b c : UInt8} (wide : width a = 3) (second : isSecond a b)
    (third : isTail c) : String.utf8EncodeChar (scalar3 a b c) = [a, b, c] := by
  have trail := isTail_iff.mp (isTail_of_isSecond second)
  rw [width_eq_three_iff] at wide
  rw [isSecond_iff] at second
  rw [isTail_iff] at third
  have range : 0x800 ≤ a.toNat % 16 * 4096 + b.toNat % 64 * 64 + c.toNat % 64 ∧
      (a.toNat % 16 * 4096 + b.toNat % 64 * 64 + c.toNat % 64).isValidChar := by
    rw [Nat.isValidChar]
    repeat' split at second
    all_goals omega
  have number : (scalar3 a b c).val.toNat = _ := toNat_val_ofNat range.2
  rw [String.utf8EncodeChar, number, if_neg (by omega), if_neg (by omega), if_pos (by omega),
    ofNat_eq (a := a) (by omega), ofNat_eq (a := b) (by omega), ofNat_eq (a := c) (by omega)]

/-- The second byte keeps the number above those of three bytes and below U+110000. -/
theorem encodeChar_four {a b c d : UInt8} (wide : width a = 4) (second : isSecond a b)
    (third : isTail c) (fourth : isTail d) :
    String.utf8EncodeChar (scalar4 a b c d) = [a, b, c, d] := by
  have trail := isTail_iff.mp (isTail_of_isSecond second)
  rw [width_eq_four_iff] at wide
  rw [isSecond_iff] at second
  rw [isTail_iff] at third fourth
  have range : 0x10000 ≤ a.toNat % 8 * 262144 + b.toNat % 64 * 4096 + c.toNat % 64 * 64 +
        d.toNat % 64 ∧
      a.toNat % 8 * 262144 + b.toNat % 64 * 4096 + c.toNat % 64 * 64 + d.toNat % 64 <
        0x110000 := by
    repeat' split at second
    all_goals omega
  have number : (scalar4 a b c d).val.toNat = _ := toNat_val_ofNat (.inr ⟨by omega, range.2⟩)
  rw [String.utf8EncodeChar, number, if_neg (by omega), if_neg (by omega), if_neg (by omega),
    ofNat_eq (a := a) (by omega), ofNat_eq (a := b) (by omega), ofNat_eq (a := c) (by omega),
    ofNat_eq (a := d) (by omega)]

/-! ## The start of a byte string -/

/-- What a byte string can start with, by the bytes that decide about it. -/
inductive IsFront : Bytes → Front → Prop where
  | empty : IsFront [] .empty
  | wrongFirst {a : UInt8} (rest : Bytes) (wide : width a = 0) :
      IsFront (a :: rest) (.malformed rest)
  | one {a : UInt8} (rest : Bytes) (wide : width a = 1) :
      IsFront (a :: rest) (.char (Char.ofNat a.toNat) rest)
  | cutFirst {a : UInt8} (wide : 2 ≤ width a) : IsFront [a] .cut
  | wrongSecond {a b : UInt8} (rest : Bytes) (wide : 2 ≤ width a) (second : isSecond a b = false) :
      IsFront (a :: b :: rest) (.malformed (b :: rest))
  | two {a b : UInt8} (rest : Bytes) (wide : width a = 2) (second : isSecond a b) :
      IsFront (a :: b :: rest) (.char (scalar2 a b) rest)
  | cutSecond {a b : UInt8} (wide : 3 ≤ width a) (second : isSecond a b) : IsFront [a, b] .cut
  | wrongThird {a b c : UInt8} (rest : Bytes) (wide : 3 ≤ width a) (second : isSecond a b)
      (third : isTail c = false) : IsFront (a :: b :: c :: rest) (.malformed (c :: rest))
  | three {a b c : UInt8} (rest : Bytes) (wide : width a = 3) (second : isSecond a b)
      (third : isTail c) : IsFront (a :: b :: c :: rest) (.char (scalar3 a b c) rest)
  | cutThird {a b c : UInt8} (wide : width a = 4) (second : isSecond a b) (third : isTail c) :
      IsFront [a, b, c] .cut
  | wrongFourth {a b c d : UInt8} (rest : Bytes) (wide : width a = 4) (second : isSecond a b)
      (third : isTail c) (fourth : isTail d = false) :
      IsFront (a :: b :: c :: d :: rest) (.malformed (d :: rest))
  | four {a b c d : UInt8} (rest : Bytes) (wide : width a = 4) (second : isSecond a b)
      (third : isTail c) (fourth : isTail d) :
      IsFront (a :: b :: c :: d :: rest) (.char (scalar4 a b c d) rest)

theorem IsFront.front_eq {first : Front} (h : IsFront bs first) : front bs = first := by
  cases h with
  | empty => rfl
  | wrongFirst _ wide => simp [front, wide]
  | one _ wide => simp [front, wide]
  | @cutFirst a wide =>
      have longer : width a ≠ 0 ∧ width a ≠ 1 := by omega
      simp [front, longer]
  | @wrongSecond a b _ wide second =>
      have longer : width a ≠ 0 ∧ width a ≠ 1 := by omega
      simp [front, longer, second]
  | two rest wide second => exact front_two wide second rest
  | @cutSecond a b wide second =>
      have longer : width a ≠ 0 ∧ width a ≠ 1 ∧ width a ≠ 2 := by omega
      simp [front, longer, second]
  | @wrongThird a b c _ wide second third =>
      have longer : width a ≠ 0 ∧ width a ≠ 1 ∧ width a ≠ 2 := by omega
      simp [front, longer, second, third]
  | three rest wide second third => exact front_three wide second third rest
  | cutThird wide second third => simp [front, wide, second, third]
  | wrongFourth _ wide second third fourth => simp [front, wide, second, third, fourth]
  | four rest wide second third fourth => exact front_four wide second third fourth rest

theorem exists_isFront (bs : Bytes) : ∃ first, IsFront bs first := by
  match bs with
  | [] => exact ⟨_, .empty⟩
  | a :: rest =>
    by_cases none : width a = 0
    · exact ⟨_, .wrongFirst rest none⟩
    by_cases one : width a = 1
    · exact ⟨_, .one rest one⟩
    match rest with
    | [] => exact ⟨_, .cutFirst (by omega)⟩
    | b :: rest =>
      cases second : isSecond a b with
      | false => exact ⟨_, .wrongSecond rest (by omega) second⟩
      | true =>
        by_cases two : width a = 2
        · exact ⟨_, .two rest two second⟩
        match rest with
        | [] => exact ⟨_, .cutSecond (by omega) second⟩
        | c :: rest =>
          cases third : isTail c with
          | false => exact ⟨_, .wrongThird rest (by omega) second third⟩
          | true =>
            by_cases three : width a = 3
            · exact ⟨_, .three rest three second third⟩
            have four : width a = 4 := by
              have := width_cases a
              omega
            match rest with
            | [] => exact ⟨_, .cutThird four second third⟩
            | d :: rest =>
              cases fourth : isTail d with
              | false => exact ⟨_, .wrongFourth rest four second third fourth⟩
              | true => exact ⟨_, .four rest four second third fourth⟩

theorem isFront_iff {first : Front} : IsFront bs first ↔ front bs = first := by
  constructor
  · exact IsFront.front_eq
  · rintro rfl
    obtain ⟨first, found⟩ := exists_isFront bs
    rwa [found.front_eq]

/-- A character is found at the start exactly where its encoding stands. -/
theorem front_eq_char_iff : front bs = .char c rest ↔ bs = String.utf8EncodeChar c ++ rest := by
  constructor
  · intro h
    cases isFront_iff.mpr h with
    | one _ wide => rw [encodeChar_one wide]; rfl
    | two _ wide second => rw [encodeChar_two wide second]; rfl
    | three _ wide second third => rw [encodeChar_three wide second third]; rfl
    | four _ wide second third fourth => rw [encodeChar_four wide second third fourth]; rfl
  · rintro rfl
    exact front_encodeChar c rest

/-- A byte of one character stands in no other character. -/
theorem eq_of_mem_encodeChar {c d : Char} {b : UInt8} (single : String.utf8EncodeChar d = [b])
    (member : b ∈ String.utf8EncodeChar c) : c = d := by
  have alone : front (String.utf8EncodeChar d) = .char d [] :=
    front_eq_char_iff.mpr (List.append_nil _).symm
  have ascii : b.toNat < 0x80 := by
    rw [single] at alone
    cases isFront_iff.mpr alone with
    | one _ wide => exact width_eq_one_iff.mp wide
  have found : front (String.utf8EncodeChar c) = .char c [] :=
    front_eq_char_iff.mpr (List.append_nil _).symm
  have whole : String.utf8EncodeChar c = [b] := by
    generalize String.utf8EncodeChar c = bytes at member found
    cases isFront_iff.mpr found with
    | one _ wide => rw [List.mem_singleton.mp member]
    | two _ wide second =>
        have tail := isTail_iff.mp (isTail_of_isSecond second)
        rw [width_eq_two_iff] at wide
        simp only [List.mem_cons, List.not_mem_nil, or_false] at member
        rcases member with rfl | rfl <;> omega
    | three _ wide second third =>
        have tail := isTail_iff.mp (isTail_of_isSecond second)
        rw [width_eq_three_iff] at wide
        rw [isTail_iff] at third
        simp only [List.mem_cons, List.not_mem_nil, or_false] at member
        rcases member with rfl | rfl | rfl <;> omega
    | four _ wide second third fourth =>
        have tail := isTail_iff.mp (isTail_of_isSecond second)
        rw [width_eq_four_iff] at wide
        rw [isTail_iff] at third fourth
        simp only [List.mem_cons, List.not_mem_nil, or_false] at member
        rcases member with rfl | rfl | rfl | rfl <;> omega
  rw [whole, ← single] at found
  cases found.symm.trans alone
  rfl

/-- Bytes whose text has no U+FFFD are the encoding of that text. -/
theorem encode_lossy (whole : replacement ∉ lossy bs) : encode (lossy bs) = bs := by
  fun_induction lossy bs with
  | case1 bs empty => rw [front_eq_empty_iff.mp empty, encode_nil]
  | case2 bs c rest first ih =>
      rw [encode_cons, ih fun later => whole (List.mem_cons_of_mem c later),
        front_eq_char_iff.mp first]
  | case3 => exact absurd List.mem_cons_self whole
  | case4 => exact absurd List.mem_cons_self whole

/-! ## Bytes that begin a character -/

theorem begins_nil : Begins [] :=
  ⟨'a', [0x61], List.cons_ne_nil _ _, by decide⟩

theorem Begins.length_le (h : Begins bs) : bs.length ≤ 3 := by
  obtain ⟨c, more, further, encoding⟩ := h
  have four := c.utf8Size_le_four
  have some := List.length_pos_iff.mpr further
  rw [← String.length_utf8EncodeChar, encoding, List.length_append] at four
  omega

/-- The least byte that may come second. -/
def leastSecond (first : UInt8) : UInt8 :=
  if first = 0xE0 then 0xA0 else if first = 0xF0 then 0x90 else 0x80

theorem isSecond_leastSecond (first : UInt8) : isSecond first (leastSecond first) := by
  rw [isSecond_iff, leastSecond]
  repeat' split
  all_goals simp_all [← UInt8.toNat_inj]

/-- A sequence that is cut can be completed by the least bytes that may follow. -/
theorem begins_of_front_eq_cut (h : front bs = .cut) : Begins bs := by
  have trail : isTail 0x80 := by decide
  cases isFront_iff.mpr h with
  | @cutFirst a wide =>
      have second := isSecond_leastSecond a
      rcases width_cases a with _ | _ | two | three | four
      · omega
      · omega
      · exact ⟨_, [leastSecond a], List.cons_ne_nil _ _, encodeChar_two two second⟩
      · exact ⟨_, [leastSecond a, 0x80], List.cons_ne_nil _ _, encodeChar_three three second trail⟩
      · exact ⟨_, [leastSecond a, 0x80, 0x80], List.cons_ne_nil _ _,
          encodeChar_four four second trail trail⟩
  | @cutSecond a b wide second =>
      rcases width_cases a with _ | _ | _ | three | four
      · omega
      · omega
      · omega
      · exact ⟨_, [0x80], List.cons_ne_nil _ _, encodeChar_three three second trail⟩
      · exact ⟨_, [0x80, 0x80], List.cons_ne_nil _ _, encodeChar_four four second trail trail⟩
  | cutThird wide second third =>
      exact ⟨_, [0x80], List.cons_ne_nil _ _, encodeChar_four wide second third trail⟩

theorem Begins.front_eq_cut (h : Begins bs) (some : bs ≠ []) : front bs = .cut := by
  obtain ⟨c, more, further, encoding⟩ := h
  have whole : front (bs ++ more) = .char c [] := by
    rw [← encoding, ← List.append_nil (String.utf8EncodeChar c), front_encodeChar]
  cases first : front bs with
  | cut => rfl
  | empty => exact absurd (front_eq_empty_iff.mp first) some
  | char c' rest =>
      have same := (front_append_of_char first more).symm.trans whole
      exact absurd (List.append_eq_nil_iff.mp (Front.char.inj same).2).2 further
  | malformed rest => cases (front_append_of_malformed first more).symm.trans whole

/-! ## Malformed sequences -/

/-- A sequence is malformed if the byte after it, or its only one, decides that. -/
theorem malformed_of_decided (wrong : front (bad ++ rest) = .malformed rest) (some : bad ≠ [])
    (begins : bad.length = 1 ∨ Begins bad)
    (decides : ∀ p, p <+: rest → p ≠ [] → front (bad ++ p) = .malformed p) :
    Malformed bad rest where
  some := some
  hopeless := by
    intro more c tail same
    have first := front_append_of_malformed wrong more
    rw [front_eq_char_iff.mpr same] at first
    cases first
  begins := begins
  longest := by
    intro p front begins
    refine Nat.le_of_not_lt fun longer => ?_
    obtain ⟨p, rfl⟩ :=
      List.prefix_of_prefix_length_le (List.prefix_append bad rest) front (Nat.le_of_lt longer)
    have further : p ≠ [] := by
      rintro rfl
      rw [List.append_nil] at longer
      exact Nat.lt_irrefl _ longer
    have cut := begins.front_eq_cut (List.append_ne_nil_of_left_ne_nil some p)
    rw [decides p ((List.prefix_append_right_inj bad).mp front) further] at cut
    cases cut

theorem exists_malformed (h : front bs = .malformed rest) :
    ∃ bad, bs = bad ++ rest ∧ Malformed bad rest := by
  have following : ∀ {b : UInt8} {rest p : Bytes}, p <+: b :: rest → p ≠ [] →
      ∃ q, p = b :: q := by
    intro b rest p front some
    obtain ⟨a, q, rfl⟩ := List.exists_cons_of_ne_nil some
    exact ⟨q, by rw [(List.cons_prefix_cons.mp front).1]⟩
  cases isFront_iff.mpr h with
  | @wrongFirst a _ wide =>
      exact ⟨[a], rfl, malformed_of_decided h (List.cons_ne_nil _ _) (.inl rfl) fun p _ _ =>
        (IsFront.wrongFirst p wide).front_eq⟩
  | @wrongSecond a b rest wide second =>
      refine ⟨[a], rfl, malformed_of_decided h (List.cons_ne_nil _ _) (.inl rfl) ?_⟩
      intro p front some
      obtain ⟨q, rfl⟩ := following front some
      exact (IsFront.wrongSecond q wide second).front_eq
  | @wrongThird a b c rest wide second third =>
      have begins := begins_of_front_eq_cut (IsFront.cutSecond wide second).front_eq
      refine ⟨[a, b], rfl, malformed_of_decided h (List.cons_ne_nil _ _) (.inr begins) ?_⟩
      intro p front some
      obtain ⟨q, rfl⟩ := following front some
      exact (IsFront.wrongThird q wide second third).front_eq
  | @wrongFourth a b c d rest wide second third fourth =>
      have begins := begins_of_front_eq_cut (IsFront.cutThird wide second third).front_eq
      refine ⟨[a, b, c], rfl, malformed_of_decided h (List.cons_ne_nil _ _) (.inr begins) ?_⟩
      intro p front some
      obtain ⟨q, rfl⟩ := following front some
      exact (IsFront.wrongFourth q wide second third fourth).front_eq

/-- Of two malformed sequences at one place, neither is longer. -/
theorem Malformed.length_le {bad' rest' : Bytes} (h : Malformed bad rest)
    (h' : Malformed bad' rest') (same : bad ++ rest = bad' ++ rest') :
    bad'.length ≤ bad.length := by
  rcases h'.begins with one | begins
  · rw [one]
    exact List.length_pos_iff.mpr h.some
  · exact h.longest bad' (same ▸ List.prefix_append bad' rest') begins

theorem Malformed.front_eq (h : Malformed bad rest) : front (bad ++ rest) = .malformed rest := by
  cases first : front (bad ++ rest) with
  | empty =>
      exact absurd (List.append_eq_nil_iff.mp (front_eq_empty_iff.mp first)).1 h.some
  | char c tail =>
      refine absurd (front_eq_char_iff.mp first) ?_
      rw [← List.append_nil (bad ++ rest)]
      exact h.hopeless [] c tail
  | cut =>
      obtain ⟨c, more, -, encoding⟩ := begins_of_front_eq_cut first
      refine absurd encoding.symm ?_
      rw [← List.append_nil (String.utf8EncodeChar c)]
      exact h.hopeless more c []
  | malformed rest' =>
      obtain ⟨bad', same, h'⟩ := exists_malformed first
      have length := Nat.le_antisymm (h'.length_le h same.symm) (h.length_le h' same)
      rw [(List.append_inj same length).2]

/-! ## Characters of one byte -/

/-- The last byte stands for itself if it is a character. -/
theorem lossy_concat {b : UInt8} (single : String.utf8EncodeChar c = [b]) (bs : Bytes) :
    lossy (bs ++ [b]) = lossy bs ++ [c] := by
  have alone : front [b] = .char c [] := front_eq_char_iff.mpr (by rw [single, List.append_nil])
  have starts : isTail b = false := by
    cases isFront_iff.mpr alone with
    | one _ wide =>
        rw [width_eq_one_iff] at wide
        exact Bool.eq_false_iff.mpr fun tail => by rw [isTail_iff] at tail; omega
  have text : lossy [b] = [c] := by
    rw [← single, ← List.append_nil (String.utf8EncodeChar c)]
    exact lossy_encode [c]
  rw [lossy_append_start bs starts, text]

theorem ne_replacement {b : UInt8} (single : String.utf8EncodeChar c = [b]) :
    replacement ≠ c := by
  rintro rfl
  have three : (String.utf8EncodeChar replacement).length = 3 := by decide
  rw [single] at three
  cases three

theorem mem_of_mem_lossy {b : UInt8} (single : String.utf8EncodeChar c = [b])
    (member : c ∈ lossy bs) : b ∈ bs := by
  fun_induction lossy bs with
  | case1 => cases member
  | case2 bs d rest first ih =>
      rw [front_eq_char_iff.mp first, List.mem_append]
      rcases List.mem_cons.mp member with rfl | later
      · exact .inl (single ▸ List.mem_singleton_self b)
      · exact .inr (ih later)
  | case3 bs rest first ih =>
      obtain ⟨bad, rfl, -⟩ := exists_malformed first
      rcases List.mem_cons.mp member with same | later
      · exact absurd same.symm (ne_replacement single)
      · exact List.mem_append_right bad (ih later)
  | case4 => exact absurd (List.mem_singleton.mp member).symm (ne_replacement single)

theorem eq_nil_of_lossy (nothing : lossy bs = []) : bs = [] := by
  rw [lossy] at nothing
  split at nothing
  · next empty => exact front_eq_empty_iff.mp empty
  all_goals cases nothing

/-- The last character is that of what follows the first one, or nothing does. -/
theorem last_cons_lossy {d : Char} (last : (d :: lossy rest).getLast? = some c) :
    d = c ∧ rest = [] ∨ (lossy rest).getLast? = some c := by
  rw [List.getLast?_cons] at last
  cases later : (lossy rest).getLast? with
  | none =>
      rw [later] at last
      exact .inl ⟨Option.some.inj last, eq_nil_of_lossy (List.getLast?_eq_none_iff.mp later)⟩
  | some c' =>
      rw [later] at last
      exact .inr last

theorem getLast?_lossy {b : UInt8} (single : String.utf8EncodeChar c = [b]) :
    (lossy bs).getLast? = some c ↔ bs.getLast? = some b := by
  refine ⟨fun last => ?_, fun last => ?_⟩
  · fun_induction lossy bs with
    | case1 => cases last
    | case2 bs d rest first ih =>
        rw [front_eq_char_iff.mp first]
        rcases last_cons_lossy last with ⟨rfl, rfl⟩ | later
        · rw [single]
          rfl
        · rw [List.getLast?_append, ih later]
          rfl
    | case3 bs rest first ih =>
        obtain ⟨bad, rfl, -⟩ := exists_malformed first
        rcases last_cons_lossy last with ⟨same, -⟩ | later
        · exact absurd same (ne_replacement single)
        · rw [List.getLast?_append, ih later]
          rfl
    | case4 => exact absurd (Option.some.inj last) (ne_replacement single)
  · obtain ⟨front, rfl⟩ := List.getLast?_eq_some_iff.mp last
    rw [lossy_concat single, List.getLast?_concat]

/-! ## Whole byte strings -/

theorem decodes_decided (bs : Bytes) : Decodes bs (decided bs) (undecided bs) := by
  fun_induction lossy bs with
  | case1 bs empty =>
      rw [front_eq_empty_iff.mp empty, decided_nil, undecided_nil]
      exact .tail begins_nil
  | case2 bs c rest first ih =>
      obtain ⟨text, left⟩ := decided_of_char first
      rw [text, left, front_eq_char_iff.mp first]
      exact .char c ih
  | case3 bs rest first ih =>
      obtain ⟨text, left⟩ := decided_of_malformed first
      obtain ⟨bad, rfl, wrong⟩ := exists_malformed first
      rw [text, left]
      exact .malformed wrong ih
  | case4 bs cut =>
      obtain ⟨text, left⟩ := decided_of_cut cut
      rw [text, left]
      exact .tail (begins_of_front_eq_cut cut)

theorem Decodes.decided_eq (h : Decodes bs text left) :
    decided bs = text ∧ undecided bs = left := by
  induction h with
  | @tail bs begins =>
      by_cases some : bs = []
      · subst some
        exact ⟨decided_nil, undecided_nil⟩
      · exact decided_of_cut (begins.front_eq_cut some)
  | @char rest text left c later ih =>
      obtain ⟨handed, kept⟩ := decided_of_char (front_encodeChar c rest)
      rw [handed, kept, ih.1, ih.2]
      exact ⟨rfl, rfl⟩
  | malformed wrong later ih =>
      obtain ⟨handed, kept⟩ := decided_of_malformed wrong.front_eq
      rw [handed, kept, ih.1, ih.2]
      exact ⟨rfl, rfl⟩

/-- Bytes read as one text only, with one end: what is decided and what is kept back. -/
theorem decodes_iff : Decodes bs text left ↔ text = decided bs ∧ left = undecided bs := by
  constructor
  · intro h
    obtain ⟨text, left⟩ := h.decided_eq
    exact ⟨text.symm, left.symm⟩
  · rintro ⟨rfl, rfl⟩
    exact decodes_decided bs

theorem begins_undecided (bs : Bytes) : Begins (undecided bs) := by
  have decodes := decodes_decided bs
  generalize undecided bs = left at decodes
  generalize decided bs = text at decodes
  induction decodes with
  | tail begins => exact begins
  | char _ _ ih => exact ih
  | malformed _ _ ih => exact ih

theorem starts_of_front_eq_cut {a : UInt8} (h : front (a :: rest) = .cut) : isTail a = false := by
  have wide : 2 ≤ width a := by
    cases isFront_iff.mpr h with
    | cutFirst wide => exact wide
    | cutSecond wide => omega
    | cutThird wide => omega
  refine Bool.eq_false_iff.mpr fun trail => ?_
  rw [isTail_iff] at trail
  rw [width_eq] at wide
  repeat' split at wide
  all_goals omega

/-- Bytes at the end that begin a character are all that is kept back, and everything before them
is decided by itself. -/
theorem decided_append_begins (whole : Bytes) {part : Bytes} (begins : Begins part)
    (some : part ≠ []) :
    decided (whole ++ part) = lossy whole ∧ undecided (whole ++ part) = part := by
  have cut := begins.front_eq_cut some
  obtain ⟨a, rest, rfl⟩ := List.exists_cons_of_ne_nil some
  obtain ⟨text, left⟩ := decided_append_start whole (starts_of_front_eq_cut cut) rest
  obtain ⟨text', left'⟩ := decided_of_cut cut
  rw [text, left, text', left', List.append_nil]
  exact ⟨rfl, rfl⟩

theorem Decodes.exists_append (h : Decodes bs text left) : ∃ whole, bs = whole ++ left := by
  induction h with
  | tail => exact ⟨[], rfl⟩
  | char c _ ih =>
      obtain ⟨whole, rfl⟩ := ih
      exact ⟨String.utf8EncodeChar c ++ whole, (List.append_assoc ..).symm⟩
  | @malformed bad _ _ _ _ _ ih =>
      obtain ⟨whole, rfl⟩ := ih
      exact ⟨bad ++ whole, (List.append_assoc ..).symm⟩

/-- What is decided is the text, by itself, of all bytes but those that are kept back. -/
theorem exists_lossy_eq_decided (bs : Bytes) :
    ∃ whole, bs = whole ++ undecided bs ∧ lossy whole = decided bs := by
  obtain ⟨whole, split⟩ := (decodes_decided bs).exists_append
  refine ⟨whole, split, ?_⟩
  by_cases some : undecided bs = []
  · rw [some, List.append_nil] at split
    rw [← split, lossy_eq, if_pos some, List.append_nil]
  · obtain ⟨text, -⟩ := decided_append_begins whole (begins_undecided bs) some
    rw [← text, ← split]

end RLanguageHost.Utf8
