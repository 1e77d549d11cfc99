import RLanguageHost.Glob.Matcher

/-!
# What a pattern matches

`Denotes` says which byte strings a pattern over bytes stands for, apart from how they are matched.
The matcher goes by derivatives: `matchesEmpty` decides the empty string (`matchesEmpty_iff`), and
what `after` leaves of a pattern stands for what may follow a byte (`denotes_cons_iff`). So the
matcher finds exactly the strings that the pattern stands for (`matchesPieces_iff`), whatever the
order in which it holds its patterns and however often one comes up.
-/

namespace RLanguageHost.Glob

/-- A pattern stands for a byte string. -/
inductive Denotes : List Piece → Bytes → Prop
  | nil : Denotes [] []
  | one {set : ByteSet} {b : UInt8} {rest : List Piece} {bs : Bytes} (inSet : set.has b)
      (tail : Denotes rest bs) : Denotes (.one set :: rest) (b :: bs)
  | runEnd {rest : List Piece} {bs : Bytes} (tail : Denotes rest bs) : Denotes (.run :: rest) bs
  | runByte {b : UInt8} {rest : List Piece} {bs : Bytes} (more : Denotes (.run :: rest) bs) :
      Denotes (.run :: rest) (b :: bs)
  | choice {patterns : List (List Piece)} {p rest : List Piece} {bs : Bytes} (listed : p ∈ patterns)
      (chosen : Denotes (p ++ rest) bs) : Denotes (.choice patterns :: rest) bs

variable {b : UInt8} {p q rest : List Piece} {bs cs : Bytes}

/-! ## The matcher -/

theorem matchesEmpty_iff : matchesEmpty p = true ↔ Denotes p [] := by
  induction p using matchesEmpty.induct with
  | case1 =>
    rw [matchesEmpty]
    exact ⟨fun _ => .nil, fun _ => rfl⟩
  | case2 set rest =>
    rw [matchesEmpty]
    exact ⟨fun no => absurd no Bool.false_ne_true, fun h => nomatch h⟩
  | case3 rest ih =>
    rw [matchesEmpty, ih]
    exact ⟨.runEnd, fun | .runEnd tail => tail⟩
  | case4 patterns rest ih =>
    rw [matchesEmpty, List.any_eq_true]
    constructor
    · rintro ⟨⟨p, listed⟩, -, empty⟩
      exact .choice listed ((ih p listed).mp empty)
    · rintro (_ | _ | _ | _ | ⟨listed, chosen⟩)
      exact ⟨⟨_, listed⟩, List.mem_attach _ _, (ih _ listed).mpr chosen⟩

/-- What is left of a pattern after a byte stands for what may follow that byte. -/
theorem denotes_cons_iff : Denotes p (b :: bs) ↔ ∃ q ∈ after b p, Denotes q bs := by
  induction p using after.induct (b := b) with
  | case1 =>
    rw [after]
    exact ⟨fun h => (nomatch h), fun ⟨_, left, _⟩ => absurd left List.not_mem_nil⟩
  | case2 set rest inSet =>
    rw [after, if_pos inSet]
    constructor
    · rintro (_ | ⟨_, tail⟩)
      exact ⟨rest, List.mem_singleton_self _, tail⟩
    · rintro ⟨q, left, tail⟩
      rw [List.mem_singleton.mp left] at tail
      exact .one inSet tail
  | case3 set rest outside =>
    rw [after, if_neg outside]
    constructor
    · rintro (_ | ⟨inSet, _⟩)
      exact absurd inSet outside
    · exact fun ⟨_, left, _⟩ => absurd left List.not_mem_nil
  | case4 rest ih =>
    rw [after]
    constructor
    · rintro (_ | _ | tail | more)
      · obtain ⟨q, left, fits⟩ := ih.mp tail
        exact ⟨q, List.mem_cons_of_mem _ left, fits⟩
      · exact ⟨.run :: rest, List.mem_cons_self, more⟩
    · rintro ⟨q, left, fits⟩
      rcases List.mem_cons.mp left with rfl | left
      · exact .runByte fits
      · exact .runEnd (ih.mpr ⟨q, left, fits⟩)
  | case5 patterns rest ih =>
    rw [after]
    constructor
    · rintro (_ | _ | _ | _ | ⟨listed, chosen⟩)
      obtain ⟨q, left, fits⟩ := (ih _ listed).mp chosen
      exact ⟨q, List.mem_flatMap.mpr ⟨⟨_, listed⟩, List.mem_attach _ _, left⟩, fits⟩
    · rintro ⟨q, left, fits⟩
      obtain ⟨⟨p, listed⟩, -, left⟩ := List.mem_flatMap.mp left
      exact .choice listed ((ih p listed).mpr ⟨q, left, fits⟩)

theorem eq_of_samePattern (same : samePattern p q = true) : p = q := by
  induction p, q using samePattern.induct (fun a b => a.same b = true → a = b)
    (fun ps qs => sameChoice ps qs = true → ps = qs) with
  | case1 s t same => rw [of_decide_eq_true same]
  | case2 | case5 | case8 => rfl
  | case3 ps qs ih same => rw [ih same]
  | case6 _ _ _ _ first rest same | case9 _ _ _ _ first rest =>
    have both := Bool.and_eq_true_iff.mp same
    rw [first both.1, rest both.2]
  | case4 => grind [Piece.same]
  | case7 => grind [sameChoice]
  | case10 => grind [samePattern]

theorem mem_dropRepeated {patterns : List (List Piece)} :
    p ∈ dropRepeated patterns ↔ p ∈ patterns := by
  induction patterns with
  | nil => rfl
  | cons first rest ih =>
    rw [dropRepeated]
    split
    · next again =>
      obtain ⟨later, here, same⟩ := List.any_eq_true.mp again
      rw [ih, List.mem_cons]
      constructor
      · exact .inr
      · rintro (rfl | listed)
        · rwa [eq_of_samePattern same]
        · exact listed
    · rw [List.mem_cons, List.mem_cons, ih]

/-- One of several patterns stands for a byte string. -/
def DenotesSome (patterns : List (List Piece)) (bs : Bytes) : Prop :=
  ∃ p ∈ patterns, Denotes p bs

theorem denotesSome_advance {patterns : List (List Piece)} :
    DenotesSome (advance patterns b) bs ↔ DenotesSome patterns (b :: bs) := by
  simp only [DenotesSome, advance, mem_dropRepeated, List.mem_flatMap]
  constructor
  · rintro ⟨q, ⟨p, listed, left⟩, fits⟩
    exact ⟨p, listed, denotes_cons_iff.mpr ⟨q, left, fits⟩⟩
  · rintro ⟨p, listed, fits⟩
    obtain ⟨q, left, fits⟩ := denotes_cons_iff.mp fits
    exact ⟨q, ⟨p, listed, left⟩, fits⟩

theorem denotesSome_foldl {patterns : List (List Piece)} :
    DenotesSome (bs.foldl advance patterns) [] ↔ DenotesSome patterns bs := by
  induction bs generalizing patterns with
  | nil => rfl
  | cons b bs ih => rw [List.foldl_cons, ih, denotesSome_advance]

theorem matchesPieces_iff : matchesPieces p bs = true ↔ Denotes p bs := by
  have all : DenotesSome (bs.foldl advance [p]) [] ↔ Denotes p bs := by
    rw [denotesSome_foldl]
    simp [DenotesSome]
  rw [← all, matchesPieces, List.any_eq_true]
  simp only [matchesEmpty_iff, DenotesSome]

/-! ## Patterns one after another -/

theorem Denotes.append (h : Denotes p bs) (h' : Denotes q cs) : Denotes (p ++ q) (bs ++ cs) := by
  induction h with
  | nil => exact h'
  | one inSet _ ih => exact .one inSet ih
  | runEnd _ ih => exact .runEnd ih
  | runByte _ ih => exact .runByte ih
  | choice listed _ ih => exact .choice listed (by rwa [List.append_assoc] at ih)

theorem denotes_run (bs : Bytes) : Denotes [.run] bs := by
  induction bs with
  | nil => exact .runEnd .nil
  | cons b bs ih => exact .runByte ih

theorem denotes_single (b : UInt8) : Denotes [.one (.single b)] [b] :=
  .one (by simp [ByteSet.has, ByteSet.single]) .nil

theorem denotes_any (b : UInt8) : Denotes [.one .all] [b] :=
  .one (by simp [ByteSet.has, ByteSet.all]) .nil

theorem has_single_iff {c : UInt8} : (ByteSet.single b).has c = true ↔ c = b := by
  simp [ByteSet.has, ByteSet.single, UInt8.le_antisymm_iff, and_comm]

theorem denotes_nil_iff : Denotes [] bs ↔ bs = [] := by
  constructor
  · intro h
    cases h
    rfl
  · rintro rfl
    exact .nil

theorem denotes_single_cons_iff :
    Denotes (.one (.single b) :: p) bs ↔ ∃ rest, bs = b :: rest ∧ Denotes p rest := by
  constructor
  · intro h
    cases h with
    | one inSet tail => exact ⟨_, by rw [has_single_iff.mp inSet], tail⟩
  · rintro ⟨rest, rfl, tail⟩
    exact .one (has_single_iff.mpr rfl) tail

/-- Bytes at the start of a pattern stand for themselves alone. -/
theorem denotes_singles_append_iff (word : Bytes) :
    Denotes (word.map (fun b => .one (.single b)) ++ p) bs ↔
      ∃ rest, bs = word ++ rest ∧ Denotes p rest := by
  induction word generalizing bs with
  | nil => simp
  | cons b word ih =>
    rw [List.map_cons, List.cons_append, denotes_single_cons_iff]
    simp only [ih]
    constructor
    · rintro ⟨_, rfl, rest, rfl, tail⟩
      exact ⟨rest, rfl, tail⟩
    · rintro ⟨rest, rfl, tail⟩
      exact ⟨word ++ rest, rfl, rest, rfl, tail⟩

theorem denotes_singles_iff (word : Bytes) :
    Denotes (word.map fun b => .one (.single b)) bs ↔ bs = word := by
  have whole : _ ↔ ∃ rest, bs = word ++ rest ∧ Denotes [] rest := denotes_singles_append_iff word
  simpa [denotes_nil_iff] using whole

/-- Any directories after a slash, and anything at the end, are whatever follows the slash. -/
theorem denotes_below_iff :
    Denotes (pieces [.directoriesBetween, .anyRun]) bs ↔ ∃ rest, bs = 0x2F :: rest := by
  have parts : pieces [.directoriesBetween, .anyRun] =
      [.choice [[slash], [slash, .run, slash]], .run] := rfl
  rw [parts]
  constructor
  · intro h
    cases h with
    | choice listed chosen =>
      simp only [List.mem_cons, List.not_mem_nil, or_false] at listed
      rcases listed with rfl | rfl
      · obtain ⟨rest, rfl, -⟩ := denotes_single_cons_iff.mp chosen
        exact ⟨rest, rfl⟩
      · obtain ⟨rest, rfl, -⟩ := denotes_single_cons_iff.mp chosen
        exact ⟨rest, rfl⟩
  · rintro ⟨rest, rfl⟩
    exact .choice List.mem_cons_self ((denotes_single 0x2F).append (denotes_run rest))

theorem denotes_literalPieces (c : Char) :
    Denotes (literalPieces c) (String.utf8EncodeChar c) :=
  (denotes_singles_iff _).mpr rfl

theorem pieces_append (a b : List Token) : pieces (a ++ b) = pieces a ++ pieces b := by
  induction a with
  | nil => rfl
  | cons token a ih => rw [List.cons_append, pieces, pieces, ih, List.append_assoc]

theorem pieces_singleton (token : Token) : pieces [token] = token.pieces := by
  rw [pieces, pieces, List.append_nil]

theorem isMatch_iff {pattern : List Token} (more : pattern ≠ [.directoriesFirst]) :
    isMatch pattern bs = true ↔ Denotes (pieces pattern) bs := by
  unfold isMatch
  split
  · exact absurd rfl more
  · exact matchesPieces_iff

/-- A pattern matches what it stands for. -/
theorem isMatch_of_denotes {pattern : List Token} (h : Denotes (pieces pattern) bs) :
    isMatch pattern bs = true := by
  unfold isMatch
  split
  · rfl
  · exact matchesPieces_iff.mpr h

end RLanguageHost.Glob
