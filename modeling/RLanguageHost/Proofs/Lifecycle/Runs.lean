import RLanguageHost.Proofs.Lifecycle.Effects

/-!
# Runs of the life cycle

`Along` says something of every event of a run, in the state in which the event comes. What one
event keeps of the standing of a key, a run along which the events allow it keeps as well.

Two kinds of runs matter. Along an undisturbed run no key is cleared while a session is being
started for it. A run of openings has no event that clears a key at all.
-/

namespace RLanguageHost.Lifecycle.State

variable {s : State} {key : ScopeKey} {events : List Event}

/-- Every event of a run is one that is allowed in the state in which it comes. -/
def Along (allowed : State → Event → Prop) : State → List Event → Prop
  | _, [] => True
  | s, e :: rest => allowed s e ∧ Along allowed (s.step e) rest

/-- The event takes no key out of the registry while a session is being started for the key. -/
def Undisturbed (s : State) (e : Event) : Prop :=
  ∀ key, s.effect key e = .cleared → s.starting key = []

/-- The event does not open a document of the scope with the key. -/
def Unasked (key : ScopeKey) (s : State) (e : Event) : Prop :=
  ∀ handler, s.effect key e ≠ .asked handler

/-- Documents are opened, their starts end, sessions die and the workspace changes; nothing is
closed, removed or stopped. -/
def Event.isOpening : Event → Bool
  | .job (.openDocument _) | .startEnded .. | .abandoned _ => true
  | .crashed _ | .workspaceChanged _ => true
  | .job (.closeDocument _) | .job (.removeFolders _) | .stopEnded .. | .deactivated => false

theorem run_append (s : State) (first second : List Event) :
    s.run (first ++ second) = (s.run first).run second :=
  List.foldl_append

/-- What each allowed event keeps, a run of allowed events keeps. -/
theorem Along.invariant {allowed : State → Event → Prop} {holds : State → Prop}
    (along : Along allowed s events) (start : holds s)
    (kept : ∀ s e, holds s → allowed s e → holds (s.step e)) : holds (s.run events) := by
  induction events generalizing s with
  | nil => exact start
  | cons e rest ih => exact ih along.2 (kept s e start along.1)

theorem along_of_forall {allowed : State → Event → Prop}
    (every : ∀ e ∈ events, ∀ s, allowed s e) : Along allowed s events := by
  induction events generalizing s with
  | nil => trivial
  | cons e rest ih =>
      refine ⟨every e List.mem_cons_self s, ih ?_⟩
      exact fun e member => every e (List.mem_cons_of_mem _ member)

theorem Sound.run (h : s.Sound) (events : List Event) : (s.run events).Sound := by
  have along : Along (fun _ _ => True) s events := along_of_forall fun _ _ _ => trivial
  exact along.invariant h fun _ e sound _ => (sound.step e).sound

/-- An opening clears no key. -/
theorem effect_ne_cleared_of_isOpening {e : Event} (opening : e.isOpening) :
    s.effect key e ≠ .cleared := by
  cases e with
  | job job =>
      cases job with
      | openDocument d =>
          simp only [effect]
          split <;> exact Effect.noConfusion
      | closeDocument | removeFolders => cases opening
  | startEnded handler result =>
      simp only [effect]
      split
      · cases result <;> exact Effect.noConfusion
      · exact Effect.noConfusion
  | abandoned =>
      simp only [effect]
      split <;> exact Effect.noConfusion
  | crashed | workspaceChanged => exact Effect.noConfusion
  | stopEnded | deactivated => cases opening

theorem undisturbed_of_isOpening {e : Event} (opening : e.isOpening) : Undisturbed s e :=
  fun _ cleared => absurd cleared (effect_ne_cleared_of_isOpening opening)

/-! ## Orderly and idle keys -/

/-- A sound state in which a key is orderly. -/
structure OrderlyAt (key : ScopeKey) (s : State) : Prop where
  sound : s.Sound
  orderly : (s.standing key).Orderly

theorem orderlyAt_initial (home : FilePath) (workspace : Workspace) :
    OrderlyAt key { home, workspace } :=
  ⟨sound_initial home workspace, Standing.orderly_empty⟩

theorem OrderlyAt.step (h : OrderlyAt key s) {e : Event}
    (undisturbed : s.effect key e = .cleared → s.starting key = []) : OrderlyAt key (s.step e) := by
  obtain ⟨sound, stands⟩ := h.sound.step e
  refine ⟨sound, ?_⟩
  rw [stands]
  exact h.orderly.apply (allows_effect e) undisturbed

/-- Nothing but a clearing while a session is being started makes a key disorderly. -/
theorem OrderlyAt.run (h : OrderlyAt key s) (undisturbed : Along Undisturbed s events) :
    OrderlyAt key (s.run events) :=
  undisturbed.invariant h fun _ _ orderly allowed => orderly.step (allowed key)

theorem undisturbed_of_openings (opening : ∀ e ∈ events, e.isOpening) :
    Along Undisturbed s events :=
  along_of_forall fun e member _ => undisturbed_of_isOpening (opening e member)

/-- A sound state in which a key is idle. -/
structure IdleAt (key : ScopeKey) (s : State) : Prop where
  sound : s.Sound
  idle : (s.standing key).Idle

theorem IdleAt.run (h : IdleAt key s) (unasked : Along (Unasked key) s events) :
    IdleAt key (s.run events) := by
  refine unasked.invariant h ?_
  intro s e idle allowed
  obtain ⟨sound, stands⟩ := idle.sound.step e
  refine ⟨sound, ?_⟩
  rw [stands]
  exact idle.idle.apply (allows_effect e) allowed

/-! ## Handlers and sessions -/

/-- A handler that comes to wait for a start has found no session that runs. -/
theorem Sound.not_isServed_of_new (h : s.Sound) {e : Event} {handler : Nat}
    (waits : handler ∈ (s.step e).starting key) (new : handler ∉ s.starting key) :
    ¬ s.isServed key := by
  have stands : (s.step e).starting key = ((s.standing key).apply (s.effect key e)).starting :=
    congrArg Standing.starting ((h.step e).standing key)
  rw [stands] at waits
  rw [← h.isServed_standing]
  exact Standing.not_isServed_of_new waits new

/-- The session that an event puts a new one in the place of, with its key. -/
def replaced? (s : State) : Event → Option (ScopeKey × Nat)
  | .startEnded handler (.ok ()) =>
    match s.waiting? handler with
    | some (.start scope) => (s.registry.get? scope.key).map (scope.key, ·)
    | _ => none
  | _ => none

/-- An event can put a new session in the place of one that still needs to be stopped. -/
def Displaces (s : State) (key : ScopeKey) : Prop :=
  ∃ e session, s.replaced? e = some (key, session) ∧ s.isLive session

theorem Sound.displaces_iff (h : s.Sound) :
    s.Displaces key ↔ s.starting key ≠ [] ∧ s.isServed key := by
  constructor
  · rintro ⟨e, session, replaced, live⟩
    unfold replaced? at replaced
    split at replaced
    · split at replaced
      · next handler _ scope waits =>
        obtain ⟨stored, here, same⟩ := Option.map_eq_some_iff.mp replaced
        obtain ⟨rfl, rfl⟩ := Prod.mk.inj same
        constructor
        · exact List.ne_nil_of_mem (mem_starting.mpr ⟨scope, h.waiting?_eq_some_iff.mp waits, rfl⟩)
        · rw [isServed, here]
          exact live
      · cases replaced
    · cases replaced
  · rintro ⟨started, served⟩
    obtain ⟨handler, waits⟩ := List.exists_mem_of_ne_nil _ started
    obtain ⟨scope, member, rfl⟩ := mem_starting.mp waits
    obtain ⟨session, stored, live⟩ := (Option.any_eq_true _ _).mp served
    refine ⟨.startEnded handler (.ok ()), session, ?_, live⟩
    rw [replaced?, h.waiting?_eq_some_iff.mpr member]
    simp [stored]

/-- Where the key is orderly, a session that runs keeps its place. -/
theorem OrderlyAt.not_displaces (h : OrderlyAt key s) : ¬ s.Displaces key := by
  rw [h.sound.displaces_iff, ← h.sound.isServed_standing]
  exact fun ⟨started, served⟩ => h.orderly.unserved started served

/-! ## Buffers -/

/-- An R buffer that was never saved. -/
def buffer (name : String) : Document where
  uri :=
    { scheme := untitledScheme
      authority := none
      path := name
      query := none
      fragment := none }
  language := rLanguage

/-- The scope of the buffers that were never saved. -/
def bufferScope (home : FilePath) : Scope where
  key := .untitled
  kind := .untitled
  selector :=
    [Rule.filter untitledScheme (some rLanguage) none,
      Rule.filter untitledScheme (some rmdLanguage) none]
  workingDirectory := home
  folder := none

end RLanguageHost.Lifecycle.State
