import RLanguageHost.Proofs.Lifecycle.Starts

/-!
# Closing while a session is being started

A close or a folder removal for whose key a session is being started finds no session to stop, and
the start goes on. The mark of the key is cleared all the same, and with it what keeps the next open
from starting a second session.

The mark is there in every state that was not disturbed before, so such a close is never without an
effect on the registry unless the session is still needed.
-/

namespace RLanguageHost.Lifecycle

/-- Folders with one key and no session only lose the mark of the key. -/
theorem removeFolders_of_get?_eq_none {r : Registry} {key : ScopeKey}
    (absent : r.get? key = none) (stopped : List ScopeKey) {folders : List Folder}
    (removed : folders ≠ []) (same : ∀ folder ∈ folders, ScopeKey.ofFolder folder = key) :
    removeFolders r stopped folders = (.finished (.foldersRemoved stopped), r.unmark key) := by
  induction folders generalizing r with
  | nil => exact absurd rfl removed
  | cons folder rest ih =>
      obtain ⟨rfl, others⟩ := List.forall_mem_cons.mp same
      rw [removeFolders, Registry.remove_of_get?_eq_none absent]
      cases rest with
      | nil => rfl
      | cons next rest =>
          refine (ih ?_ (List.cons_ne_nil _ _) others).trans ?_
          · rw [Registry.get?_unmark, absent]
          · rw [Registry.unmark_unmark]

namespace State

variable {s : State} {key : ScopeKey}

theorem perform_closeDocument_of_stillNeeded {d : Document} (needed : stillNeeded s.workspace d) :
    (s.perform (.closeDocument d)).2 =
      (some (.closed .retained), { s with nextHandler := s.nextHandler + 1 }) := by
  rw [perform]
  dsimp only
  rw [closeDocument_of_stillNeeded needed]
  rfl

theorem perform_closeDocument_of_get?_eq_none {d : Document}
    (unneeded : ¬ stillNeeded s.workspace d) (absent : s.registry.get? (.ofClosed d) = none) :
    (s.perform (.closeDocument d)).2 =
      (some (.closed .noSession),
        { s with
          nextHandler := s.nextHandler + 1
          registry := s.registry.unmark (.ofClosed d) }) := by
  rw [perform]
  dsimp only
  rw [closeDocument_of_get?_eq_none unneeded absent]
  rfl

theorem perform_removeFolders_of_get?_eq_none {folders : List Folder}
    (absent : s.registry.get? key = none) (removed : folders ≠ [])
    (same : ∀ folder ∈ folders, ScopeKey.ofFolder folder = key) :
    (s.perform (.removeFolders folders)).2 =
      (some (.foldersRemoved []),
        { s with
          nextHandler := s.nextHandler + 1
          registry := s.registry.unmark key }) := by
  rw [perform]
  dsimp only
  rw [removeFolders_of_get?_eq_none absent [] removed same]
  rfl

/-- A close or folder removal for a key without a session stops nothing and leaves everything but
the mark of the key as it is; the registry changes exactly if the key is marked. As long as no event
clears a key while a session is being started for it, such a key is marked, and at most one session
is being started for it. The first event that does clear such a key makes a second start possible,
with openings alone; no other event does. -/
theorem close_while_starting (home : FilePath) (workspace : Workspace) (events : List Event) :
    let s := run { home, workspace } events
    let closing (key : ScopeKey) : State :=
      { s with nextHandler := s.nextHandler + 1, registry := s.registry.unmark key }
    (∀ key, s.registry.get? key = none →
      (∀ d, ScopeKey.ofClosed d = key → (s.perform (.closeDocument d)).2 =
        if stillNeeded s.workspace d then
          (some (.closed .retained), { s with nextHandler := s.nextHandler + 1 })
        else (some (.closed .noSession), closing key)) ∧
      (∀ folders, folders ≠ [] → (∀ folder ∈ folders, ScopeKey.ofFolder folder = key) →
        (s.perform (.removeFolders folders)).2 = (some (.foldersRemoved []), closing key)) ∧
      ((closing key).registry = s.registry ↔ key ∉ s.registry.marked)) ∧
    (Along Undisturbed { home, workspace } events →
      (∀ key, s.starting key ≠ [] → key ∈ s.registry.marked) ∧
      (∀ key, (s.starting key).length ≤ 1) ∧
      ∀ e key, (∃ later, (∀ x ∈ later, x.isOpening) ∧
          1 < (((s.step e).run later).starting key).length) ↔
        s.effect key e = .cleared ∧ s.starting key ≠ []) := by
  intro s closing
  refine ⟨fun key absent => ⟨?_, ?_, Registry.unmark_eq_self_iff⟩, fun undisturbed => ?_⟩
  · rintro d rfl
    by_cases needed : stillNeeded s.workspace d
    · rw [if_pos needed]
      exact perform_closeDocument_of_stillNeeded needed
    · rw [if_neg needed]
      exact perform_closeDocument_of_get?_eq_none needed absent
  · exact fun folders removed same => perform_removeFolders_of_get?_eq_none absent removed same
  · have orderly : ∀ key, OrderlyAt key s := fun key =>
      (orderlyAt_initial home workspace).run undisturbed
    refine ⟨?_, fun key => (orderly key).orderly.single,
      fun e key => (orderly key).can_start_twice_iff e⟩
    exact fun key started => Registry.isMarked_iff.mp ((orderly key).orderly.marked started)

/-- A buffer is closed while its session is being started: the close stops nothing, but clears the
mark of the untitled buffers, and a second session can come to be started. -/
theorem close_while_starting_buffer :
    let home : FilePath := ⟨Utf8.encode ['/']⟩
    let opened : Event := .job (.openDocument (buffer "Untitled-1"))
    let closed : Event := .job (.closeDocument (buffer "Untitled-1"))
    let s := run { home } [opened]
    s.starting .untitled ≠ [] ∧ s.registry.get? .untitled = none ∧
      Along Undisturbed { home } [opened] ∧
      (s.perform (.closeDocument (buffer "Untitled-1"))).2 =
        (some (.closed .noSession),
          { s with nextHandler := s.nextHandler + 1, registry := s.registry.unmark .untitled }) ∧
      s.registry.unmark .untitled ≠ s.registry ∧
      ∃ later, (∀ x ∈ later, x.isOpening) ∧
        1 < (((s.step closed).run later).starting .untitled).length := by
  intro home opened closed s
  have started : s.starting .untitled ≠ [] := by decide
  have absent : s.registry.get? .untitled = none := rfl
  have undisturbed : Along Undisturbed { home } [opened] := ⟨undisturbed_of_isOpening rfl, trivial⟩
  obtain ⟨closes, stays⟩ := close_while_starting home {} [opened]
  obtain ⟨close, _, unchanged⟩ := closes .untitled absent
  obtain ⟨marked, _, exactly⟩ := stays undisturbed
  refine ⟨started, absent, undisturbed, close (buffer "Untitled-1") rfl, ?_, ?_⟩
  · exact fun same => unchanged.mp same (marked .untitled started)
  · exact (exactly closed .untitled).mpr ⟨by decide, started⟩

/-- A buffer is opened, closed while its session is being started, and opened again: the close has
changed the registry, and then two sessions are being started for one key. -/
theorem buffer_started_twice :
    let home : FilePath := ⟨Utf8.encode ['/']⟩
    let opened : Event := .job (.openDocument (buffer "Untitled-1"))
    let closed : Event := .job (.closeDocument (buffer "Untitled-1"))
    let s := run { home } [opened]
    s.starting .untitled = [0] ∧ s.registry.get? .untitled = none ∧
      (s.step closed).registry ≠ s.registry ∧
      ((s.step closed).step opened).starting .untitled = [0, 2] := by
  decide

end State

end RLanguageHost.Lifecycle
