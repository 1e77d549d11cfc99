/-!
# Where one key stands

Handlers of different keys never get in each other's way, so the life cycle is looked at one key at
a time. A `Standing` is all that the state says about a key, and an `Effect` all that an event can
do to it.

`Orderly` is what the check before a start is there for: at most one session is being started for a
key, the key is marked meanwhile, and no session that runs is ever without its place. It survives
every effect but one, a key that is cleared while a session is being started for it.
-/

namespace RLanguageHost.Lifecycle

/-- What the state says about one key. -/
structure Standing where
  /-- The handlers that wait for a session to be started for the key. -/
  starting : List Nat := []
  marked : Bool := false
  /-- The session in the registry. -/
  stored : Option Nat := none
  /-- The sessions for the key that still need to be stopped. -/
  alive : List Nat := []
  deriving Repr, DecidableEq

/-- What an event does to one key. -/
inductive Effect where
  | untouched
  /-- A handler has checked whether it is to start a session. -/
  | asked (handler : Nat)
  /-- The session that a handler waited for was started. -/
  | completed (handler session : Nat)
  /-- The session that a handler waited for will not be started. -/
  | givenUp (handler : Nat)
  /-- The key was taken out of the registry. -/
  | cleared
  | died (session : Nat)
  deriving Repr, DecidableEq

namespace Standing

variable {a : Standing}

/-- Whether the session in the registry still needs to be stopped. -/
def isServed (a : Standing) : Bool :=
  a.stored.any fun session => a.alive.contains session

/-- Where a key stands after an effect. -/
def apply (a : Standing) : Effect → Standing
  | .untouched => a
  | .asked handler =>
    if a.marked then a
    else if a.isServed then { a with marked := true }
    else { a with marked := true, starting := a.starting ++ [handler] }
  | .completed handler session =>
    { starting := a.starting.filter (· ≠ handler)
      marked := false
      stored := some session
      alive := a.alive ++ [session] }
  | .givenUp handler => { a with starting := a.starting.filter (· ≠ handler), marked := false }
  | .cleared =>
    { a with marked := false, stored := none, alive := a.alive.filter (some · ≠ a.stored) }
  | .died session => { a with alive := a.alive.filter (· ≠ session) }

/-- Only a handler that waits for a start can end it. -/
def Allows (a : Standing) : Effect → Prop
  | .completed handler _ | .givenUp handler => handler ∈ a.starting
  | _ => True

theorem isServed_iff : a.isServed ↔ ∃ session ∈ a.alive, a.stored = some session := by
  unfold isServed
  cases a.stored <;> simp

theorem not_isServed_of_stored_eq_none (absent : a.stored = none) : ¬ a.isServed := by
  simp [isServed, absent]

/-- A key without a session only loses its mark when it is cleared. -/
theorem apply_cleared_of_stored_eq_none (absent : a.stored = none) :
    a.apply .cleared = { a with marked := false } := by
  obtain ⟨starting, marked, stored, alive⟩ := a
  obtain rfl : stored = none := absent
  rw [apply, List.filter_eq_self.mpr]
  exact fun session _ => rfl

/-- A death serves nobody. -/
theorem isServed_of_died {session : Nat} (served : (a.apply (.died session)).isServed) :
    a.isServed := by
  obtain ⟨found, member, stored⟩ := isServed_iff.mp served
  exact isServed_iff.mpr ⟨found, (List.mem_filter.mp member).1, stored⟩

theorem apply_asked_of_marked {handler : Nat} (marked : a.marked) :
    a.apply (.asked handler) = a := by
  rw [apply, if_pos marked]

theorem apply_asked_of_served {handler : Nat} (unmarked : ¬ a.marked) (served : a.isServed) :
    a.apply (.asked handler) = { a with marked := true } := by
  rw [apply, if_neg unmarked, if_pos served]

/-- A handler that asks about an unmarked key whose session does not run starts one. -/
theorem apply_asked_of_unserved {handler : Nat} (unmarked : ¬ a.marked)
    (unserved : ¬ a.isServed) :
    a.apply (.asked handler) = { a with marked := true, starting := a.starting ++ [handler] } := by
  rw [apply, if_neg unmarked, if_neg unserved]

/-- Only a handler that has found no session that runs comes to wait for a start. -/
theorem not_isServed_of_new {effect : Effect} {handler : Nat}
    (waits : handler ∈ (a.apply effect).starting) (new : handler ∉ a.starting) : ¬ a.isServed := by
  cases effect with
  | asked other =>
      by_cases marked : a.marked
      · rw [apply_asked_of_marked marked] at waits
        exact absurd waits new
      · intro served
        rw [apply_asked_of_served marked served] at waits
        exact new waits
  | completed | givenUp => exact absurd (List.mem_filter.mp waits).1 new
  | untouched | cleared | died => exact absurd waits new

/-! ## Orderly keys -/

/-- What holds of a key as long as it is not cleared at the wrong moment. -/
structure Orderly (a : Standing) : Prop where
  single : a.starting.length ≤ 1
  marked : a.starting ≠ [] → a.marked
  unserved : a.starting ≠ [] → ¬ a.isServed
  stored : ∀ session ∈ a.alive, a.stored = some session

theorem orderly_empty : Orderly {} where
  single := Nat.zero_le 1
  marked := fun started => absurd rfl started
  unserved := fun started => absurd rfl started
  stored := fun _ member => by cases member

theorem Orderly.starting_eq (h : a.Orderly) {handler : Nat} (member : handler ∈ a.starting) :
    a.starting = [handler] := by
  obtain ⟨only, same⟩ := List.length_eq_one_iff.mp
    (Nat.le_antisymm h.single (List.length_pos_of_mem member))
  rw [same] at member ⊢
  rw [List.mem_singleton.mp member]

/-- When the only start ends, none is left. -/
theorem Orderly.starting_filter (h : a.Orderly) {handler : Nat} (member : handler ∈ a.starting) :
    a.starting.filter (· ≠ handler) = [] := by
  rw [h.starting_eq member]
  simp

/-- While a session is being started, no other one for the key runs. -/
theorem Orderly.alive_eq_nil (h : a.Orderly) (started : a.starting ≠ []) : a.alive = [] := by
  rw [List.eq_nil_iff_forall_not_mem]
  intro session member
  exact h.unserved started (isServed_iff.mpr ⟨session, member, h.stored session member⟩)

/-- A key for which no session is being started is orderly if every session that runs has its
place. -/
theorem orderly_of_starting_eq_nil (none : a.starting = [])
    (stored : ∀ session ∈ a.alive, a.stored = some session) : a.Orderly where
  single := by simp [none]
  marked := fun started => absurd none started
  unserved := fun started => absurd none started
  stored := stored

theorem Orderly.apply (h : a.Orderly) {effect : Effect} (allowed : a.Allows effect)
    (undisturbed : effect = .cleared → a.starting = []) : (a.apply effect).Orderly := by
  cases effect with
  | untouched => exact h
  | asked handler =>
      by_cases marked : a.marked
      · rw [apply_asked_of_marked marked]
        exact h
      · have none : a.starting = [] := Classical.not_not.mp fun started => marked (h.marked started)
        by_cases served : a.isServed
        · rw [apply_asked_of_served marked served]
          exact orderly_of_starting_eq_nil none h.stored
        · rw [apply_asked_of_unserved marked served, none]
          exact ⟨Nat.le_refl 1, fun _ => rfl, fun _ => served, h.stored⟩
  | completed handler session =>
      -- Nothing is alive for the key before, so the new session is the only one, and it is stored.
      refine orderly_of_starting_eq_nil (h.starting_filter allowed) ?_
      intro found member
      rw [Standing.apply, h.alive_eq_nil (List.ne_nil_of_mem allowed), List.nil_append,
        List.mem_singleton] at member
      rw [member]
      rfl
  | givenUp handler =>
      exact orderly_of_starting_eq_nil (h.starting_filter allowed) h.stored
  | cleared =>
      refine orderly_of_starting_eq_nil (undisturbed rfl) ?_
      intro session member
      obtain ⟨running, displaced⟩ := List.mem_filter.mp member
      exact absurd (h.stored session running).symm (of_decide_eq_true displaced)
  | died session =>
      refine ⟨h.single, h.marked, fun started => mt isServed_of_died (h.unserved started), ?_⟩
      exact fun found member => h.stored found ((List.mem_filter.mp member).1)

/-! ## Idle keys -/

/-- Nothing runs for the key, and nothing keeps the next open from starting a session. -/
structure Idle (a : Standing) : Prop where
  starting : a.starting = []
  unmarked : ¬ a.marked
  unserved : ¬ a.isServed

/-- A key stays idle until a handler asks about it. -/
theorem Idle.apply (h : a.Idle) {effect : Effect} (allowed : a.Allows effect)
    (unasked : ∀ handler, effect ≠ .asked handler) : (a.apply effect).Idle := by
  have ended : ∀ handler, handler ∉ a.starting := by simp [h.starting]
  cases effect with
  | untouched => exact h
  | asked handler => exact absurd rfl (unasked handler)
  | completed handler _ => exact absurd allowed (ended handler)
  | givenUp handler => exact absurd allowed (ended handler)
  | cleared => exact ⟨h.starting, Bool.false_ne_true, not_isServed_of_stored_eq_none rfl⟩
  | died session => exact ⟨h.starting, h.unmarked, mt isServed_of_died h.unserved⟩

/-- A start that fails leaves an orderly key idle. -/
theorem Orderly.idle_givenUp (h : a.Orderly) {handler : Nat} (member : handler ∈ a.starting) :
    (a.apply (.givenUp handler)).Idle where
  starting := h.starting_filter member
  unmarked := Bool.false_ne_true
  unserved := h.unserved (List.ne_nil_of_mem member)

end Standing

end RLanguageHost.Lifecycle
