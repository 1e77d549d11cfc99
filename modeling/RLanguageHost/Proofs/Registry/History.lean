import RLanguageHost.Proofs.Registry

/-!
# What a registry remembers of its calls

What a registry answers to a check of a key is read here off the calls that came before, whatever
they are.

Of the calls on a key only this is remembered: whether one of them was a check since the mark was
last cleared. It makes no difference what the check was answered, and whether the session that
answered it still lives.
-/

namespace RLanguageHost.Registry

namespace Desk

variable {d : Desk} {key other : ScopeKey} {call : Call} {calls : List Call}

/-- A call clears the mark of a key. -/
def Clears (d : Desk) (key : ScopeKey) : Call → Prop
  | .complete guard _ | .drop guard => d.guardKey? guard = some key
  | .remove other => other = key
  | .drain => True
  | .begin _ | .died _ => False

/-- No call of a run clears the mark of a key. -/
def Uncleared (key : ScopeKey) : Desk → List Call → Prop
  | _, [] => True
  | d, call :: rest => ¬ d.Clears key call ∧ Uncleared key (d.step call) rest

/-- A key was checked in a run, and its mark was not cleared since. -/
def Asked (d : Desk) (key : ScopeKey) (calls : List Call) : Prop :=
  ∃ earlier later, calls = earlier ++ .begin key :: later ∧
    Uncleared key ((d.run earlier).step (.begin key)) later

/-- A call is about a key: it is made on the key, on a guard of it or on all keys, or it is the
death of the session under the key. -/
def Concerns (d : Desk) (key : ScopeKey) : Call → Prop
  | .begin other | .remove other => other = key
  | .complete guard _ | .drop guard => d.guardKey? guard = some key
  | .drain => True
  | .died session => d.registry.get? key = some session

/-! ## Marks -/

/-- A check marks its key, whatever it is answered. -/
theorem registry_step_begin :
    (d.step (.begin key)).registry = d.registry.mark key ∧ (d.step (.begin key)).live = d.live := by
  by_cases marked : key ∈ d.registry.marked
  · have same : d.registry.mark key = d.registry := if_pos (isMarked_iff.mpr marked)
    rw [step, begin_of_marked marked, same]
    exact ⟨rfl, rfl⟩
  · rw [step, begin_of_unmarked marked]
    cases (d.registry.get? key).any d.isLive <;> exact ⟨rfl, rfl⟩

/-- One call marks a key exactly if it is a check of it, and unmarks it exactly if it clears it. -/
theorem mem_marked_step :
    key ∈ (d.step call).registry.marked ↔
      call = .begin key ∨ (key ∈ d.registry.marked ∧ ¬ d.Clears key call) := by
  cases call with
  | begin other =>
      rw [registry_step_begin.1, mem_marked_mark, Call.begin.injEq, or_comm, eq_comm]
      simp [Clears]
  | complete guard live =>
      cases held : d.guardKey? guard with
      | none => simp [step, Clears, held]
      | some other =>
          have cleared : key ∈ (d.registry.complete other d.live.length).marked ↔
              key ∈ d.registry.marked ∧ key ≠ other := mem_marked_unmark
          rw [step, held]
          simpa [Clears, held, eq_comm] using cleared
  | drop guard =>
      cases held : d.guardKey? guard with
      | none => simp [step, Clears, held]
      | some other =>
          have cleared : key ∈ (d.registry.abandon other).marked ↔
              key ∈ d.registry.marked ∧ key ≠ other := mem_marked_unmark
          rw [step, held]
          simpa [Clears, held, eq_comm] using cleared
  | remove other =>
      rw [step, mem_marked_remove]
      simp [Clears, eq_comm]
  | drain => simp [step, Registry.drain, Clears]
  | died session => simp [step, Clears]

theorem asked_nil : ¬ d.Asked key [] := by
  rintro ⟨earlier, later, split, -⟩
  simp at split

theorem asked_cons {rest : List Call} :
    d.Asked key (call :: rest) ↔
      (call = .begin key ∧ Uncleared key (d.step call) rest) ∨ (d.step call).Asked key rest := by
  constructor
  · rintro ⟨earlier, later, split, uncleared⟩
    cases earlier with
    | nil =>
        obtain ⟨rfl, rfl⟩ := List.cons.inj split
        exact .inl ⟨rfl, uncleared⟩
    | cons first earlier =>
        obtain ⟨rfl, rfl⟩ := List.cons.inj split
        exact .inr ⟨earlier, later, rfl, uncleared⟩
  · rintro (⟨rfl, uncleared⟩ | ⟨earlier, later, rfl, uncleared⟩)
    · exact ⟨[], rest, rfl, uncleared⟩
    · exact ⟨call :: earlier, later, rfl, uncleared⟩

/-- A key is marked after a run if it was checked since it was last cleared, or was marked before
and never cleared. -/
theorem mem_marked_run :
    key ∈ (d.run calls).registry.marked ↔
      d.Asked key calls ∨ (key ∈ d.registry.marked ∧ Uncleared key d calls) := by
  induction calls generalizing d with
  | nil => simp [run, asked_nil, Uncleared]
  | cons call rest ih =>
      have rest' := ih (d := d.step call)
      rw [mem_marked_step] at rest'
      rw [asked_cons, Uncleared]
      refine rest'.trans ?_
      grind

/-! ## Calls that are about other keys -/

theorem isServed_congr {e : Desk} (sameLive : e.live = d.live)
    (same : e.registry.get? key = d.registry.get? key) : e.isServed key = d.isServed key := by
  have lives : e.isLive = d.isLive := by
    funext session
    rw [isLive, isLive, sameLive]
  rw [isServed, isServed, same, lives]

/-- The stored sessions are among those that were ever stored. -/
def Known (d : Desk) : Prop :=
  ∀ key session, d.registry.get? key = some session → session < d.live.length

theorem Known.step (h : d.Known) : (d.step call).Known := by
  intro key session stored
  cases call with
  | begin other =>
      rw [registry_step_begin.1, get?_mark] at stored
      rw [registry_step_begin.2]
      exact h key session stored
  | complete guard live =>
      cases held : d.guardKey? guard with
      | none =>
          rw [Desk.step, held] at stored ⊢
          exact h key session stored
      | some other =>
          rw [Desk.step, held] at stored ⊢
          simp only [get?_complete] at stored
          rw [List.length_append]
          split at stored
          · cases stored
            exact Nat.lt_succ_self _
          · exact Nat.lt_succ_of_lt (h key session stored)
  | drop guard =>
      cases held : d.guardKey? guard with
      | none =>
          rw [Desk.step, held] at stored ⊢
          exact h key session stored
      | some other =>
          rw [Desk.step, held] at stored ⊢
          exact h key session stored
  | remove other =>
      rw [Desk.step, get?_remove] at stored
      split at stored
      · cases stored
      · exact h key session stored
  | drain => cases stored
  | died victim =>
      rw [Desk.step, List.length_set]
      exact h key session stored

theorem Known.run (h : d.Known) : (d.run calls).Known := by
  induction calls generalizing d with
  | nil => exact h
  | cons call rest ih => exact ih h.step

/-- A call that is not about a key leaves its mark, and what session serves it. -/
theorem Known.step_of_not_concerns (h : d.Known) (foreign : ¬ d.Concerns key call) :
    (key ∈ (d.step call).registry.marked ↔ key ∈ d.registry.marked) ∧
      (d.step call).isServed key = d.isServed key := by
  constructor
  · rw [mem_marked_step]
    cases call <;> simp_all [Clears, Concerns]
  · cases call with
    | begin other =>
        refine isServed_congr registry_step_begin.2 ?_
        rw [registry_step_begin.1, get?_mark]
    | complete guard live =>
        cases held : d.guardKey? guard with
        | none => rw [Desk.step, held]
        | some other =>
            have differs : key ≠ other := by
              rintro rfl
              exact foreign held
            rw [isServed, isServed, Desk.step, held]
            simp only [get?_complete, if_neg differs]
            cases stored : d.registry.get? key with
            | none => rfl
            | some session =>
                simp only [Option.any_some, isLive]
                rw [List.getElem?_append_left (h key session stored)]
    | drop guard =>
        rw [Desk.step]
        split <;> rfl
    | remove other =>
        have differs : key ≠ other := fun same => foreign same.symm
        refine isServed_congr rfl ?_
        rw [Desk.step, get?_remove, if_neg differs]
    | drain => exact absurd trivial foreign
    | died victim =>
        cases stored : d.registry.get? key with
        | none => simp [isServed, Desk.step, stored]
        | some session =>
            have differs : victim ≠ session := by
              rintro rfl
              exact foreign stored
            simp [isServed, Desk.step, stored, isLive, List.getElem?_set_ne differs]

/-! ## Checks -/

theorem check_eq_proceed_iff :
    d.check key = .proceed ↔ ¬ d.isServed key ∧ key ∉ d.registry.marked := by
  unfold check
  by_cases marked : key ∈ d.registry.marked
  · rw [begin_of_marked marked]
    simp [marked]
  · rw [begin_of_unmarked marked]
    unfold isServed
    cases (d.registry.get? key).any d.isLive <;> simp [marked]

theorem check_eq_handled_iff :
    d.check key = .handled ↔ d.isServed key ∨ key ∈ d.registry.marked := by
  have proceeds : d.check key = .proceed ↔ ¬ d.isServed key ∧ key ∉ d.registry.marked :=
    check_eq_proceed_iff
  cases answer : d.check key <;> grind

/-- Whatever calls came before, a check of a key says to start a session exactly if no live session
is stored under the key and the key was not checked since it was last cleared; otherwise the check
is handled. The key is marked exactly if it was so checked. Calls about other keys change neither.
After a check, whoever answered it, every further check is handled until the key is cleared. -/
theorem check_and_mark_of_history (calls : List Call) (key : ScopeKey) :
    let d := run {} calls
    (d.check key = .proceed ↔ ¬ d.isServed key ∧ ¬ Asked {} key calls) ∧
      (d.check key = .handled ↔ d.isServed key ∨ Asked {} key calls) ∧
      (d.registry.isMarked key ↔ Asked {} key calls) ∧
      (∀ call, ¬ d.Concerns key call →
        (d.step call).check key = d.check key ∧
          (d.step call).registry.isMarked key = d.registry.isMarked key) ∧
      ∀ later, Uncleared key (d.step (.begin key)) later →
        ((d.step (.begin key)).run later).check key = .handled := by
  intro d
  have marked : key ∈ d.registry.marked ↔ Asked {} key calls := by
    rw [mem_marked_run]
    simp
  have known : d.Known := Known.run (d := {}) (fun _ _ stored => by cases stored)
  refine ⟨?_, ?_, ?_, ?_, ?_⟩
  · rw [check_eq_proceed_iff, marked]
  · rw [check_eq_handled_iff, marked]
  · rw [isMarked_iff, marked]
  · intro call foreign
    obtain ⟨sameMark, sameService⟩ := known.step_of_not_concerns foreign
    constructor
    · have same : (d.step call).check key = .proceed ↔ d.check key = .proceed := by
        rw [check_eq_proceed_iff, check_eq_proceed_iff, sameMark, sameService]
      cases first : d.check key <;> cases second : (d.step call).check key <;> simp_all
    · rw [Bool.eq_iff_iff, isMarked_iff, isMarked_iff, sameMark]
  · intro later uncleared
    refine check_eq_handled_iff.mpr (.inr (mem_marked_run.mpr (.inr ⟨?_, uncleared⟩)))
    exact mem_marked_step.mpr (.inl rfl)

/-- The untitled key has two guards, and the first stores a session. The key is checked while the
session runs, and the session dies: further checks are handled. -/
theorem check_handled_after_death :
    let d := run {} [.begin .untitled, .remove .untitled, .begin .untitled, .complete 0 true]
    Uncleared .untitled (d.step (.begin .untitled)) [.died 0, .begin .untitled] ∧
      ((d.step (.begin .untitled)).run [.died 0, .begin .untitled]).check .untitled = .handled := by
  intro d
  have uncleared : Uncleared .untitled (d.step (.begin .untitled)) [.died 0, .begin .untitled] :=
    ⟨id, id, trivial⟩
  obtain ⟨-, -, -, -, handled⟩ := check_and_mark_of_history
    [.begin .untitled, .remove .untitled, .begin .untitled, .complete 0 true] .untitled
  exact ⟨uncleared, handled _ uncleared⟩

/-- Dropping the second guard clears the key, and a session is started anew. -/
example :
    (run {} [.begin .untitled, .remove .untitled, .begin .untitled, .complete 0 true,
      .begin .untitled, .died 0, .drop 1]).check .untitled = .proceed := by
  decide +kernel

end Desk

end RLanguageHost.Registry
