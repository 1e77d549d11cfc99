import RLanguageHost.Proofs.Lifecycle.Soundness

/-!
# Taking keys out of the registry

Closing a document, removing folders and going on with the next folder all take keys out of the
registry in the same way, until one of them has a session; that one the handler then stops.
`Clearing` says this once, and `Sound.record_of_clearing` what comes of it for every key.
-/

namespace RLanguageHost.Lifecycle

theorem Waiting.startKey?_of_session? {waiting : Waiting} {session : Nat}
    (stops : waiting.session? = some session) : waiting.startKey? = none := by
  cases waiting with
  | start => cases stops
  | stop | removal => rfl

/-- The keys of removed folders that are taken out at once: those up to the first that has a
session. -/
def reached (r : Registry) : List Folder → List ScopeKey
  | [] => []
  | folder :: rest =>
    ScopeKey.ofFolder folder ::
      if (r.get? (.ofFolder folder)).isSome then [] else reached r rest

/-- How a part of a handler ends that took keys out of a registry. -/
inductive Found (r : Registry) (keys : List ScopeKey) : Progress → Prop where
  | nothing {outcome : Outcome} (absent : ∀ key ∈ keys, r.get? key = none) :
      Found r keys (.finished outcome)
  | session {waiting : Waiting} {key : ScopeKey} {session : Nat}
      (stops : waiting.session? = some session) (here : key ∈ keys)
      (stored : r.get? key = some session)
      (absent : ∀ other ∈ keys, other ≠ key → r.get? other = none) :
      Found r keys (.suspended waiting)

/-- A part of a handler has taken keys out of a registry. At most one of them had a session, which
is stopped next. -/
structure Clearing (r : Registry) (keys : List ScopeKey) (result : Progress × Registry) : Prop where
  get? : ∀ key, result.2.get? key = if key ∈ keys then none else r.get? key
  marked : ∀ key, key ∈ result.2.marked ↔ key ∈ r.marked ∧ key ∉ keys
  sorted : r.Sorted → result.2.Sorted
  found : Found r keys result.1

theorem Clearing.get?_of_get? {r : Registry} {keys : List ScopeKey} {result : Progress × Registry}
    (clearing : Clearing r keys result) {key : ScopeKey} {session : Nat}
    (stored : result.2.get? key = some session) : r.get? key = some session := by
  rw [clearing.get?] at stored
  split at stored
  · cases stored
  · exact stored

theorem Clearing.isMarked {r : Registry} {keys : List ScopeKey} {result : Progress × Registry}
    (clearing : Clearing r keys result) (key : ScopeKey) :
    result.2.isMarked key = (r.isMarked key && key ∉ keys) := by
  rw [Bool.eq_iff_iff]
  simp [clearing.marked]

theorem clearing_finished (r : Registry) (outcome : Outcome) :
    Clearing r [] (.finished outcome, r) where
  get? := fun key => by simp
  marked := fun key => by simp
  sorted := id
  found := .nothing fun _ member => by cases member

theorem clearing_remove {r : Registry} {key : ScopeKey} {progress : Progress}
    (found : Found r [key] progress) : Clearing r [key] (progress, (r.remove key).2) where
  get? := fun other => by simp
  marked := fun other => by rw [Registry.mem_marked_remove, List.mem_singleton]
  sorted := Registry.Sorted.remove
  found := found

theorem clearing_unmark {r : Registry} {key : ScopeKey} (absent : r.get? key = none)
    (outcome : Outcome) : Clearing r [key] (.finished outcome, r.unmark key) := by
  rw [show r.unmark key = (r.remove key).2 by rw [Registry.remove_of_get?_eq_none absent]]
  exact clearing_remove (.nothing (List.forall_mem_singleton.mpr absent))

theorem found_remove {r : Registry} {key : ScopeKey} {session : Nat} {waiting : Waiting}
    (stored : r.get? key = some session) (stops : waiting.session? = some session) :
    Found r [key] (.suspended waiting) :=
  .session stops (List.mem_singleton.mpr rfl) stored fun _ member differs =>
    absurd (List.mem_singleton.mp member) differs

theorem closeDocument_of_stillNeeded {view : View} {r : Registry} {d : Document}
    (needed : stillNeeded view.workspace d) :
    closeDocument view r d = (.finished (.closed .retained), r) := by
  rw [closeDocument, if_pos needed]

/-- A close that finds no session clears the mark of the key. -/
theorem closeDocument_of_get?_eq_none {view : View} {r : Registry} {d : Document}
    (unneeded : ¬ stillNeeded view.workspace d) (absent : r.get? (.ofClosed d) = none) :
    closeDocument view r d = (.finished (.closed .noSession), r.unmark (.ofClosed d)) := by
  rw [closeDocument, if_neg unneeded]
  dsimp only
  rw [Registry.remove_of_get?_eq_none absent]

theorem closeDocument_of_get?_eq_some {view : View} {r : Registry} {d : Document} {session : Nat}
    (unneeded : ¬ stillNeeded view.workspace d) (stored : r.get? (.ofClosed d) = some session) :
    closeDocument view r d =
      (.suspended (.stop (.ofClosed d) session), (r.remove (.ofClosed d)).2) := by
  rw [closeDocument, if_neg unneeded]
  dsimp only
  rw [Registry.remove_of_get?_eq_some stored]

theorem clearing_closeDocument (view : View) (r : Registry) (d : Document) :
    Clearing r (if stillNeeded view.workspace d then [] else [ScopeKey.ofClosed d])
      (closeDocument view r d) := by
  by_cases needed : stillNeeded view.workspace d
  · rw [if_pos needed, closeDocument_of_stillNeeded needed]
    exact clearing_finished r _
  · rw [if_neg needed]
    cases stored : r.get? (ScopeKey.ofClosed d) with
    | none =>
        rw [closeDocument_of_get?_eq_none needed stored]
        exact clearing_unmark stored _
    | some session =>
        rw [closeDocument_of_get?_eq_some needed stored]
        exact clearing_remove (found_remove stored rfl)

theorem reached_congr {r r' : Registry} (same : ∀ key, r'.get? key = r.get? key)
    (folders : List Folder) : reached r' folders = reached r folders := by
  induction folders with
  | nil => rfl
  | cons folder rest ih => rw [reached, reached, same, ih]

/-- A key without a session is passed over after its mark was cleared. -/
theorem Clearing.cons {r : Registry} {key : ScopeKey} {keys : List ScopeKey}
    {result : Progress × Registry} (absent : r.get? key = none)
    (later : Clearing (r.unmark key) keys result) : Clearing r (key :: keys) result where
  get? := fun other => by
    rw [later.get?, Registry.get?_unmark]
    by_cases here : other = key
    · subst here
      simp [absent]
    · simp [here]
  marked := fun other => by
    rw [later.marked, Registry.mem_marked_unmark, List.mem_cons, not_or, and_assoc]
  sorted := fun sorted => later.sorted sorted
  found := by
    obtain ⟨progress, after⟩ := result
    cases later.found with
    | nothing none =>
        exact .nothing (List.forall_mem_cons.mpr ⟨absent, none⟩)
    | session stops member stored none =>
        refine .session stops (List.mem_cons_of_mem _ member) stored ?_
        exact List.forall_mem_cons.mpr ⟨fun _ => absent, none⟩

theorem clearing_removeFolders (r : Registry) (stopped : List ScopeKey) (folders : List Folder) :
    Clearing r (reached r folders) (removeFolders r stopped folders) := by
  induction folders generalizing r with
  | nil => exact clearing_finished r _
  | cons folder rest ih =>
      rw [reached, removeFolders]
      cases stored : r.get? (ScopeKey.ofFolder folder) with
      | none =>
          rw [Registry.remove_of_get?_eq_none stored]
          refine Clearing.cons stored ?_
          rw [Option.isSome_none, if_neg Bool.false_ne_true,
            ← reached_congr fun _ => Registry.get?_unmark]
          exact ih _
      | some session =>
          rw [Registry.remove_of_get?_eq_some stored]
          exact clearing_remove (found_remove stored rfl)

namespace State

variable {s : State} {key : ScopeKey}

theorem record_of_session? {handler : Nat} {waiting : Waiting} {session : Nat}
    (stops : waiting.session? = some session) (registry : Registry) :
    s.record handler (.suspended waiting) registry =
      (none, { s with
        registry
        handlers := s.handlers ++ [(handler, waiting)]
        fleet := s.fleet.modify session beginStop }) := by
  cases waiting with
  | start => cases stops
  | stop | removal => cases stops; rfl

theorem Sound.record_of_clearing (h : s.Sound) {handler : Nat}
    (fresh : handler ∉ s.handlers.map (·.1)) (known : handler < s.nextHandler)
    {keys : List ScopeKey} {progress : Progress} {registry : Registry}
    (clearing : Clearing s.registry keys (progress, registry)) :
    (s.record handler progress registry).2.Sound ∧
      ∀ key, (s.record handler progress registry).2.standing key =
        (s.standing key).apply (if key ∈ keys then .cleared else .untouched) := by
  have sound := h.withRegistry (clearing.sorted h.sorted) fun _ _ => clearing.get?_of_get?
  cases clearing.found with
  | @nothing outcome absent =>
      refine ⟨sound, fun key => ?_⟩
      rw [record, standing, clearing.isMarked, clearing.get?]
      by_cases member : key ∈ keys
      · have none := absent key member
        rw [if_pos member, if_pos member, Standing.apply_cleared_of_stored_eq_none none]
        simp [member, standing, none, starting, alive]
      · simp [member, Standing.apply, standing, starting, alive]
  | @session waiting taken session stops here stored absent =>
      rw [record_of_session? stops]
      refine ⟨(sound.push fresh known ?_).modify ends_beginStop session, fun key => ?_⟩
      · rintro scope rfl
        cases stops
      · rw [standing, clearing.isMarked, clearing.get?, starting_append rfl,
          Waiting.startKey?_of_session? stops, ends_beginStop.alive rfl]
        -- Only the key whose session is stopped loses one; the other keys had none to lose.
        by_cases same : key = taken
        · subst same
          simp [here, Standing.apply, standing, stored]
        · rw [h.filter_alive stored same]
          by_cases member : key ∈ keys
          · have none := absent key member same
            rw [if_pos member, if_pos member, Standing.apply_cleared_of_stored_eq_none none]
            simp [member, standing, none]
          · simp [member, Standing.apply, standing]

end State

end RLanguageHost.Lifecycle
