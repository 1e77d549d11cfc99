import RLanguageHost.Text.Utf8

/-!
# Decoding the start of a byte string

The decoder is pinned to the encoder by `front_encodeChar`, the only statement that looks at the
bytes of a character. All others speak of `front`, and of how more bytes leave its answer as it is.
-/

namespace RLanguageHost.Utf8

/-! ## Characters -/

theorem width_eq (a : UInt8) : width a =
    if a.toNat < 0x80 then 1 else if a.toNat < 0xC2 then 0 else if a.toNat < 0xE0 then 2
    else if a.toNat < 0xF0 then 3 else if a.toNat < 0xF5 then 4 else 0 := by
  simp only [width, UInt8.lt_iff_toNat_lt, UInt8.reduceToNat]

theorem isTail_iff {b : UInt8} : isTail b = true ↔ 0x80 ≤ b.toNat ∧ b.toNat ≤ 0xBF := by
  simp [isTail, UInt8.le_iff_toNat_le]

theorem isSecond_iff {a b : UInt8} : isSecond a b = true ↔
    (if a.toNat = 0xE0 then 0xA0 else if a.toNat = 0xF0 then 0x90 else 0x80) ≤ b.toNat ∧
      b.toNat ≤ (if a.toNat = 0xED then 0x9F else if a.toNat = 0xF4 then 0x8F else 0xBF) := by
  simp only [isSecond, Bool.and_eq_true, decide_eq_true_eq, UInt8.le_iff_toNat_le,
    ← UInt8.toNat_inj, apply_ite UInt8.toNat, UInt8.reduceToNat]

theorem toNat_ofNat_of_lt {n : Nat} (h : n < 256) : (UInt8.ofNat n).toNat = n := by
  rw [UInt8.toNat_ofNat']
  omega

theorem front_one {v : Nat} (h : v < 0x80) (rest : Bytes) :
    front (UInt8.ofNat v :: rest) = .char (Char.ofNat v) rest := by
  have hv : (UInt8.ofNat v).toNat = v := toNat_ofNat_of_lt (by omega)
  have hw : width (UInt8.ofNat v) = 1 := by rw [width_eq, hv, if_pos h]
  simp only [front, hw, hv, Nat.reduceEqDiff, if_false, if_true]

theorem front_two {a b : UInt8} (wide : width a = 2) (second : isSecond a b) (rest : Bytes) :
    front (a :: b :: rest) = .char (scalar2 a b) rest := by
  simp [front, wide, second]

theorem front_three {a b c : UInt8} (wide : width a = 3) (second : isSecond a b) (third : isTail c)
    (rest : Bytes) : front (a :: b :: c :: rest) = .char (scalar3 a b c) rest := by
  simp [front, wide, second, third]

theorem front_four {a b c d : UInt8} (wide : width a = 4) (second : isSecond a b)
    (third : isTail c) (fourth : isTail d) (rest : Bytes) :
    front (a :: b :: c :: d :: rest) = .char (scalar4 a b c d) rest := by
  simp [front, wide, second, third, fourth]

/-- The encoding of a character starts with that character, whatever follows it. -/
theorem front_encodeChar (c : Char) (rest : Bytes) :
    front (String.utf8EncodeChar c ++ rest) = .char c rest := by
  have valid := c.valid
  have number : Char.ofNat c.val.toNat = c := Char.ofNat_toNat c
  simp only [UInt32.isValidChar, Nat.isValidChar] at valid
  simp only [String.utf8EncodeChar]
  generalize c.val.toNat = v at *
  subst number
  have tail : ∀ n, (UInt8.ofNat (n % 64 + 128)).toNat = n % 64 + 128 := fun n =>
    toNat_ofNat_of_lt (by omega)
  have tailIs : ∀ n, isTail (UInt8.ofNat (n % 64 + 128)) := fun n => by
    rw [isTail_iff, tail]
    omega
  repeat' split
  · exact front_one (by omega) rest
  · have lead : (UInt8.ofNat (v / 64 % 32 + 192)).toNat = v / 64 % 32 + 192 :=
      toNat_ofNat_of_lt (by omega)
    have wide : width (UInt8.ofNat (v / 64 % 32 + 192)) = 2 := by
      rw [width_eq, lead]
      repeat' split
      all_goals omega
    have second : isSecond (UInt8.ofNat (v / 64 % 32 + 192)) (UInt8.ofNat (v % 64 + 128)) := by
      rw [isSecond_iff, lead, tail]
      repeat' split
      all_goals omega
    have value : (v / 64 % 32 + 192) % 32 * 64 + (v % 64 + 128) % 64 = v := by omega
    rw [List.cons_append, List.cons_append, List.nil_append, front_two wide second, scalar2, lead,
      tail, value]
  · have lead : (UInt8.ofNat (v / 4096 % 16 + 224)).toNat = v / 4096 % 16 + 224 :=
      toNat_ofNat_of_lt (by omega)
    have wide : width (UInt8.ofNat (v / 4096 % 16 + 224)) = 3 := by
      rw [width_eq, lead]
      repeat' split
      all_goals omega
    have second :
        isSecond (UInt8.ofNat (v / 4096 % 16 + 224)) (UInt8.ofNat (v / 64 % 64 + 128)) := by
      rw [isSecond_iff, lead, tail]
      repeat' split
      all_goals omega
    have value : (v / 4096 % 16 + 224) % 16 * 4096 + (v / 64 % 64 + 128) % 64 * 64 +
        (v % 64 + 128) % 64 = v := by omega
    rw [List.cons_append, List.cons_append, List.cons_append, List.nil_append,
      front_three wide second (tailIs v), scalar3, lead, tail, tail, value]
  · have lead : (UInt8.ofNat (v / 262144 % 8 + 240)).toNat = v / 262144 % 8 + 240 :=
      toNat_ofNat_of_lt (by omega)
    have wide : width (UInt8.ofNat (v / 262144 % 8 + 240)) = 4 := by
      rw [width_eq, lead]
      repeat' split
      all_goals omega
    have second :
        isSecond (UInt8.ofNat (v / 262144 % 8 + 240)) (UInt8.ofNat (v / 4096 % 64 + 128)) := by
      rw [isSecond_iff, lead, tail]
      repeat' split
      all_goals omega
    have value : (v / 262144 % 8 + 240) % 8 * 262144 + (v / 4096 % 64 + 128) % 64 * 4096 +
        (v / 64 % 64 + 128) % 64 * 64 + (v % 64 + 128) % 64 = v := by omega
    rw [List.cons_append, List.cons_append, List.cons_append, List.cons_append, List.nil_append,
      front_four wide second (tailIs _) (tailIs v), scalar4, lead, tail, tail, tail, value]

/-- Text that starts with an ASCII byte starts with the character of that byte. -/
theorem eq_of_head?_encodeChar {c : Char} {bs : Bytes} {v : Nat} (ascii : v < 0x80)
    (h : (String.utf8EncodeChar c ++ bs).head? = some (UInt8.ofNat v)) : c = Char.ofNat v := by
  obtain ⟨rest, split⟩ := List.head?_eq_some_iff.mp h
  have first : Front.char c bs = .char (Char.ofNat v) rest := by
    rw [← front_encodeChar c bs, split, front_one ascii]
  cases first
  rfl

/-! ## Byte strings -/

@[simp] theorem encode_nil : encode [] = [] := rfl

@[simp] theorem encode_cons (c : Char) (text : List Char) :
    encode (c :: text) = String.utf8EncodeChar c ++ encode text := rfl

theorem front_eq_empty_iff {bs : Bytes} : front bs = .empty ↔ bs = [] := by
  constructor
  · intro h
    unfold front at h
    split at h
    · rfl
    · repeat' split at h
      all_goals cases h
  · rintro rfl
    rfl

theorem decode?_of_front_char {bs rest : Bytes} {c : Char} (h : front bs = .char c rest) :
    decode? bs = (decode? rest).map (c :: ·) := by
  rw [decode?]
  split <;> simp_all

theorem decode?_encode (text : List Char) : decode? (encode text) = some text := by
  induction text with
  | nil => simp [decode?, front]
  | cons c text ih =>
      rw [encode_cons, decode?_of_front_char (front_encodeChar c (encode text)), ih]
      rfl

theorem encode_inj {text other : List Char} : encode text = encode other ↔ text = other := by
  constructor
  · intro same
    have decoded := decode?_encode text
    rw [same, decode?_encode] at decoded
    exact (Option.some.inj decoded).symm
  · exact congrArg encode

theorem encode_eq_nil_iff {text : List Char} : encode text = [] ↔ text = [] := by
  rw [← encode_nil, encode_inj]

theorem encode_append (first second : List Char) :
    encode (first ++ second) = encode first ++ encode second :=
  List.flatMap_append

/-- More bytes do not change a decided beginning. -/
theorem front_append_of_char {bs rest : Bytes} {c : Char} (h : front bs = .char c rest)
    (more : Bytes) : front (bs ++ more) = .char c (rest ++ more) := by
  unfold front at h ⊢
  split at h
  · cases h
  · repeat' split at h
    all_goals cases h
    all_goals simp_all

theorem front_append_of_malformed {bs rest : Bytes} (h : front bs = .malformed rest)
    (more : Bytes) : front (bs ++ more) = .malformed (rest ++ more) := by
  unfold front at h ⊢
  split at h
  · cases h
  · repeat' split at h
    all_goals cases h
    all_goals simp_all

@[simp] theorem next_nil : next [] = none := by
  simp [next, wellFormedPrefix, front]

/-- What is kept back holds no text yet. -/
theorem next_drain (buffer : Bytes) : next (drain buffer).2 = none := by
  fun_induction drain buffer with
  | case1 buffer h => exact h
  | case2 buffer text rest h pieces left hd ih => rwa [hd] at ih

end RLanguageHost.Utf8
