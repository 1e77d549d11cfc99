import RLanguageHost.Registry

/-!
# What a registry says about a key

A registry is read one key at a time: which session is stored under the key, and whether the key is
marked. The lemmas here say what each operation does to both readings; none of them looks at the
lists behind a registry again.

Sessions stand in the order of their keys, and no key has two. `Sorted` is kept by every operation,
and makes an entry of the list and the session of a key one and the same.
-/

namespace RLanguageHost.Registry

variable {r : Registry} {key other : ScopeKey} {session : Nat}

/-- Sessions stand in the order of their keys, so no key has two. -/
def Sorted (r : Registry) : Prop :=
  r.sessions.Pairwise fun a b => a.1.text < b.1.text

/-! ## Marks -/

@[simp] theorem isMarked_iff : r.isMarked key ↔ key ∈ r.marked := by
  simp [isMarked]

@[simp] theorem get?_mark : (r.mark key).get? other = r.get? other := by
  unfold mark
  split <;> rfl

@[simp] theorem mem_marked_mark : other ∈ (r.mark key).marked ↔ other ∈ r.marked ∨ other = key := by
  unfold mark
  split
  · next known =>
    rw [isMarked_iff] at known
    refine ⟨.inl, ?_⟩
    rintro (known' | rfl)
    · exact known'
    · exact known
  · simp

@[simp] theorem get?_unmark : (r.unmark key).get? other = r.get? other := rfl

@[simp] theorem mem_marked_unmark :
    other ∈ (r.unmark key).marked ↔ other ∈ r.marked ∧ other ≠ key := by
  simp [unmark]

theorem isMarked_mark : (r.mark key).isMarked other = (r.isMarked other || other = key) := by
  rw [Bool.eq_iff_iff]
  simp

theorem isMarked_unmark : (r.unmark key).isMarked other = (r.isMarked other && other ≠ key) := by
  rw [Bool.eq_iff_iff]
  simp

@[simp] theorem unmark_unmark : (r.unmark key).unmark key = r.unmark key := by
  rw [unmark, unmark, List.filter_filter]
  simp

theorem isMarked_complete :
    (r.complete key session).isMarked other = (r.isMarked other && other ≠ key) :=
  isMarked_unmark

theorem isMarked_abandon : (r.abandon key).isMarked other = (r.isMarked other && other ≠ key) :=
  isMarked_unmark

/-- Clearing a mark changes nothing exactly if the key has none. -/
theorem unmark_eq_self_iff : r.unmark key = r ↔ key ∉ r.marked := by
  constructor
  · intro same marked
    rw [← same] at marked
    simp at marked
  · intro unmarked
    have all : r.marked.filter (· ≠ key) = r.marked := by
      rw [List.filter_eq_self]
      intro known member
      exact decide_eq_true (ne_of_mem_of_not_mem member unmarked)
    rw [unmark, all]

/-! ## Sessions -/

theorem lookup_cons {sessions : List (ScopeKey × Nat)} :
    ((key, session) :: sessions).lookup other =
      if other = key then some session else sessions.lookup other := by
  by_cases here : other = key
  · subst here
    simp
  · rw [List.lookup_cons, beq_false_of_ne here, if_neg here]

theorem lookup_insert {sessions : List (ScopeKey × Nat)} :
    (insert key session sessions).lookup other =
      if other = key then some session else sessions.lookup other := by
  induction sessions with
  | nil =>
      exact lookup_cons
  | cons entry rest ih =>
      obtain ⟨known, stored⟩ := entry
      rw [insert]
      split
      · exact lookup_cons
      · split
        · next same =>
          subst same
          rw [lookup_cons, lookup_cons]
          by_cases here : other = key <;> simp [here]
        · next differs =>
          rw [lookup_cons, lookup_cons, ih]
          by_cases here : other = known
          · subst here
            simp [Ne.symm differs]
          · simp [here]

theorem lookup_filter_ne {sessions : List (ScopeKey × Nat)} :
    (sessions.filter (·.1 ≠ key)).lookup other =
      if other = key then none else sessions.lookup other := by
  induction sessions with
  | nil =>
      simp
  | cons entry rest ih =>
      obtain ⟨known, stored⟩ := entry
      by_cases dropped : known = key
      · subst dropped
        rw [List.filter_cons_of_neg (by simp), ih, lookup_cons]
        by_cases here : other = known <;> simp [here]
      · rw [List.filter_cons_of_pos (by simpa using dropped), lookup_cons, ih, lookup_cons]
        by_cases here : other = known
        · subst here
          simp [dropped]
        · simp [here]

@[simp] theorem get?_complete :
    (r.complete key session).get? other = if other = key then some session else r.get? other :=
  lookup_insert

@[simp] theorem get?_remove :
    (r.remove key).2.get? other = if other = key then none else r.get? other :=
  lookup_filter_ne

@[simp] theorem mem_marked_remove :
    other ∈ (r.remove key).2.marked ↔ other ∈ r.marked ∧ other ≠ key :=
  mem_marked_unmark

/-- Taking out a key that has no session only clears its mark. -/
theorem remove_of_get?_eq_none (absent : r.get? key = none) :
    r.remove key = (none, r.unmark key) := by
  have all : r.sessions.filter (·.1 ≠ key) = r.sessions := by
    rw [List.filter_eq_self]
    intro entry member
    have differs := List.lookup_eq_none_iff.mp absent entry member
    exact decide_eq_true fun same => bne_iff_ne.mp differs same.symm
  rw [remove, all, absent]
  rfl

theorem remove_of_get?_eq_some (stored : r.get? key = some session) :
    r.remove key = (some session, (r.remove key).2) := by
  rw [← stored]
  rfl

/-! ## The check before a start -/

theorem begin_of_marked {live : Nat → Bool} (marked : key ∈ r.marked) :
    r.begin live key = (.handled, r) := by
  rw [begin, if_pos (isMarked_iff.mpr marked)]

theorem begin_of_unmarked {live : Nat → Bool} (unmarked : key ∉ r.marked) :
    r.begin live key =
      (if (r.get? key).any live then .handled else .proceed, r.mark key) := by
  rw [begin, if_neg (by simpa using unmarked)]
  split <;> simp_all

/-! ## The order of the sessions -/

theorem sorted_empty : Sorted {} := .nil

theorem mem_insert {sessions : List (ScopeKey × Nat)} {entry : ScopeKey × Nat}
    (member : entry ∈ insert key session sessions) : entry = (key, session) ∨ entry ∈ sessions := by
  induction sessions with
  | nil =>
      exact .inl (List.mem_singleton.mp member)
  | cons first rest ih =>
      rw [insert] at member
      split at member
      · exact List.mem_cons.mp member
      · split at member
        · exact (List.mem_cons.mp member).imp id (List.mem_cons_of_mem _)
        · rcases List.mem_cons.mp member with same | later
          · exact .inr (List.mem_cons.mpr (.inl same))
          · exact (ih later).imp id (List.mem_cons_of_mem _)

theorem pairwise_insert {sessions : List (ScopeKey × Nat)}
    (sorted : sessions.Pairwise fun a b => a.1.text < b.1.text) :
    (insert key session sessions).Pairwise fun a b => a.1.text < b.1.text := by
  induction sessions with
  | nil =>
      exact List.pairwise_singleton _ _
  | cons first rest ih =>
      obtain ⟨before, ordered⟩ := List.pairwise_cons.mp sorted
      rw [insert]
      split
      · next less =>
        refine List.pairwise_cons.mpr ⟨?_, sorted⟩
        intro entry member
        rcases List.mem_cons.mp member with rfl | later
        · exact less
        · exact String.lt_trans less (before entry later)
      · next notLess =>
        split
        · next same =>
          subst same
          exact List.pairwise_cons.mpr ⟨before, ordered⟩
        · next differs =>
          have greater : first.1.text < key.text := by
            rcases Std.lt_trichotomy key.text first.1.text with less | same | greater
            · exact absurd less notLess
            · exact absurd (congrArg ScopeKey.mk same) differs
            · exact greater
          refine List.pairwise_cons.mpr ⟨?_, ih ordered⟩
          intro entry member
          rcases mem_insert member with rfl | later
          · exact greater
          · exact before entry later

theorem Sorted.mark (sorted : r.Sorted) : (r.mark key).Sorted := by
  unfold Registry.mark
  split <;> exact sorted

theorem Sorted.complete (sorted : r.Sorted) : (r.complete key session).Sorted :=
  pairwise_insert sorted

theorem Sorted.abandon (sorted : r.Sorted) : (r.abandon key).Sorted := sorted

theorem Sorted.remove (sorted : r.Sorted) : (r.remove key).2.Sorted :=
  List.Pairwise.filter _ sorted

/-- The entries of a sorted registry are what it says about keys. -/
theorem Sorted.mem_sessions_iff (sorted : r.Sorted) :
    (key, session) ∈ r.sessions ↔ r.get? key = some session := by
  unfold Sorted at sorted
  unfold get?
  generalize r.sessions = sessions at sorted
  induction sessions with
  | nil =>
      simp
  | cons first rest ih =>
      obtain ⟨known, stored⟩ := first
      obtain ⟨before, ordered⟩ := List.pairwise_cons.mp sorted
      rw [lookup_cons, List.mem_cons, Prod.mk.injEq]
      by_cases here : key = known
      · subst here
        have absent : (key, session) ∉ rest := fun later =>
          String.lt_irrefl _ (before (key, session) later)
        simp [absent, eq_comm]
      · simp [here, ih ordered]

end RLanguageHost.Registry
