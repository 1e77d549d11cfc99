import RLanguageHost.Proofs.Lifecycle.Custody
import RLanguageHost.Proofs.Lifecycle.Runs
import RLanguageHost.Proofs.Lifecycle.Warrant

/-!
# Opening a document and closing it again

The key under which an opened document finds its session comes from the rules, the key that its
close takes out from the document alone. Outside workspace folders the two are the same, whatever
the URI looks like. So a close undoes the open: it stops the session that was started, and leaves
the registry as it was but for the one key, for which nothing is left.

While the session starts, anything may happen. `Awaits` says what stays: the handler of the opened
document waits for nothing but that start.
-/

namespace RLanguageHost

variable {key : ScopeKey} {r r' r'' : Registry}

/-! ## One key -/

/-- Outside workspace folders, the key of a document's scope is the one that its close takes out. -/
theorem Belongs.key_eq_ofClosed {d : Document} {folder : Option Folder} {kind : ScopeKind}
    (belongs : Belongs d folder kind key) (outside : kind ≠ .workspaceFolder) :
    key = .ofClosed d := by
  cases belongs with
  | cell cell notebook => exact (ScopeKey.ofClosed_of_filePath? cell notebook).symm
  | inFolder => exact absurd rfl outside
  | buffer untitled => exact (ScopeKey.ofClosed_of_isUntitled untitled).symm
  | stray file => exact (ScopeKey.ofClosed_of_isFile file).symm

/-! ## Every other key -/

/-- Two registries say the same about every key but one. -/
def Registry.SameBut (key : ScopeKey) (r r' : Registry) : Prop :=
  ∀ other, other ≠ key →
    r'.get? other = r.get? other ∧ (other ∈ r'.marked ↔ other ∈ r.marked)

namespace Registry

theorem SameBut.refl (key : ScopeKey) (r : Registry) : SameBut key r r :=
  fun _ _ => ⟨rfl, .rfl⟩

theorem SameBut.trans (first : SameBut key r r') (second : SameBut key r' r'') :
    SameBut key r r'' := by
  intro other differs
  obtain ⟨get, marked⟩ := first other differs
  obtain ⟨get', marked'⟩ := second other differs
  exact ⟨get'.trans get, marked'.trans marked⟩

theorem sameBut_mark (key : ScopeKey) (r : Registry) : SameBut key r (r.mark key) := by
  intro other differs
  simp [differs]

theorem sameBut_complete (key : ScopeKey) (session : Nat) (r : Registry) :
    SameBut key r (r.complete key session) := by
  intro other differs
  refine ⟨?_, ?_⟩
  · rw [get?_complete, if_neg differs]
  · show other ∈ (r.unmark key).marked ↔ other ∈ r.marked
    simp [differs]

theorem sameBut_remove (key : ScopeKey) (r : Registry) : SameBut key r (r.remove key).2 := by
  intro other differs
  simp [differs]

end Registry

namespace Lifecycle

theorem sameBut_openDocument {view : View} {d : Document} {scope : Scope}
    (resolved : view.workspace.resolve view.home d = some scope) (r : Registry) :
    Registry.SameBut scope.key r (openDocument view r d).2 := by
  rw [openDocument, resolved]
  dsimp only
  by_cases marked : scope.key ∈ r.marked
  · rw [Registry.begin_of_marked marked]
    exact .refl _ _
  · rw [Registry.begin_of_unmarked marked]
    split
    · next checked =>
      obtain ⟨-, rfl⟩ := Prod.mk.inj checked
      exact Registry.sameBut_mark _ _
    · next checked =>
      obtain ⟨-, rfl⟩ := Prod.mk.inj checked
      exact Registry.sameBut_mark _ _

namespace State

variable {s : State} {handler : Nat} {resolved : Option Scope}

/-! ## While a session is being started -/

/-- The handlers that wait have numbers that were given to handlers. -/
def Numbered (s : State) : Prop :=
  ∀ entry ∈ s.handlers, entry.1 < s.nextHandler

/-- A handler has begun, and waits for nothing but the start of a session for the scope, if there is
one. -/
structure Awaits (s : State) (handler : Nat) (resolved : Option Scope) : Prop where
  numbered : s.Numbered
  begun : handler < s.nextHandler
  only : ∀ waiting, (handler, waiting) ∈ s.handlers →
    ∃ scope, resolved = some scope ∧ waiting = .start scope

@[simp] theorem nextHandler_record (handler : Nat) (progress : Progress) (registry : Registry) :
    (s.record handler progress registry).2.nextHandler = s.nextHandler := by
  cases progress with
  | finished => rfl
  | suspended waiting => cases waiting <;> rfl

theorem nextHandler_perform (s : State) (job : Job) :
    (s.perform job).2.2.nextHandler = s.nextHandler + 1 :=
  nextHandler_record _ _ _

theorem nextHandler_step (s : State) (e : Event) : s.nextHandler ≤ (s.step e).nextHandler := by
  cases e with
  | job job =>
      rw [step, nextHandler_perform]
      exact Nat.le_succ _
  | startEnded handler result =>
      rw [step, finishStart]
      split
      · cases result <;> exact Nat.le_refl _
      · exact Nat.le_refl _
  | stopEnded handler result =>
      rw [step, finishStop]
      split
      · exact Nat.le_refl _
      · show s.nextHandler ≤ (State.record _ _ _ _).2.nextHandler
        rw [nextHandler_record]
        exact Nat.le_refl _
      · exact Nat.le_refl _
  | abandoned handler =>
      rw [step, abandonHandler]
      split <;> exact Nat.le_refl _
  | crashed => exact Nat.le_refl _
  | deactivated =>
      obtain ⟨fleet, -, steps⟩ := s.step_deactivated_eq
      exact Nat.le_of_eq (by rw [steps])
  | workspaceChanged => exact Nat.le_refl _

theorem Numbered.step (h : s.Numbered) (e : Event) : (s.step e).Numbered := by
  rintro ⟨handler, waiting⟩ waits
  rcases mem_handlers_step waits with before | comes
  · exact Nat.lt_of_lt_of_le (h _ before) (nextHandler_step s e)
  · cases comes with
    | opened new | closed new | removed new =>
        rw [State.step, nextHandler_perform, new]
        exact Nat.lt_succ_self _
    | next stopping =>
        have before := h _ (mem_handlers_of_waiting? stopping)
        exact Nat.lt_of_lt_of_le before (nextHandler_step s _)

/-- A handler that has begun does not begin again, and one that waits for a start is not stopping
folders. -/
theorem Awaits.step (h : s.Awaits handler resolved) (e : Event) :
    (s.step e).Awaits handler resolved where
  numbered := h.numbered.step e
  begun := Nat.lt_of_lt_of_le h.begun (nextHandler_step s e)
  only := by
    intro waiting waits
    rcases mem_handlers_step waits with before | comes
    · exact h.only waiting before
    · cases comes with
      | opened new | closed new | removed new => exact absurd new (Nat.ne_of_lt h.begun)
      | next stopping stopped =>
          obtain ⟨scope, -, rfl⟩ := h.only _ (mem_handlers_of_waiting? stopping)
          cases stopped

theorem Awaits.run (h : s.Awaits handler resolved) (events : List Event) :
    (s.run events).Awaits handler resolved := by
  induction events generalizing s with
  | nil => exact h
  | cons e rest ih => exact ih (h.step e)

theorem Numbered.awaits_openDocument (h : s.Numbered) (d : Document) :
    (s.step (.job (.openDocument d))).Awaits s.nextHandler (s.workspace.resolve s.home d) where
  numbered := h.step _
  begun := by
    rw [State.step, nextHandler_perform]
    exact Nat.lt_succ_self _
  only := by
    intro waiting waits
    rcases mem_handlers_step waits with before | comes
    · exact absurd (h _ before) (Nat.lt_irrefl _)
    · cases comes with
      | opened new resolved => exact ⟨_, resolved, rfl⟩

/-! ## The close -/

/-- A start that succeeds is the one that the handler waits for. -/
theorem Awaits.finishStart_eq (h : s.Awaits handler resolved)
    {result : Except Session.Error Unit} {key : ScopeKey}
    (started : (s.finishStart handler result).1 = some (.opened (.started key))) :
    ∃ scope, resolved = some scope ∧ scope.key = key ∧
      (s.finishStart handler result).2 =
        { s.dropHandler handler with
          registry := s.registry.complete key s.fleet.length
          fleet := s.fleet ++ [{ scope }] } := by
  unfold finishStart at started ⊢
  split at started
  · next scope waits =>
    obtain ⟨own, resolved, here⟩ := h.only _ (mem_handlers_of_waiting? waits)
    cases here
    cases result with
    | ok =>
        cases started
        exact ⟨scope, resolved, rfl, rfl⟩
    | error => cases started
  · cases started

/-- Nothing else that is open shares the session of the document. -/
theorem not_stillNeeded_of_alone {w : Workspace} {d : Document}
    (alone : ∀ e ∈ w.documents, e.uri.text ≠ d.uri.text →
      (d.isUntitled → ¬ e.isUntitled) ∧ (d.isCell → ¬ e.sameNotebook d)) :
    ¬ stillNeeded w d := by
  intro needed
  by_cases buffer : d.isUntitled
  · obtain ⟨e, opened, other, shares⟩ := (stillNeeded_iff_of_isUntitled buffer).mp needed
    exact (alone e opened other).1 buffer shares
  · by_cases cell : d.isCell
    · obtain ⟨e, opened, other, shares⟩ := (stillNeeded_iff_of_isCell cell).mp needed
      exact (alone e opened other).2 cell shares
    · exact not_stillNeeded buffer cell needed

/-- A close that finds a session waits for it to stop. -/
theorem perform_closeDocument_of_get?_eq_some {d : Document} {session : Nat}
    (unneeded : ¬ stillNeeded s.workspace d)
    (stored : s.registry.get? (.ofClosed d) = some session) :
    s.perform (.closeDocument d) =
      (s.nextHandler, none,
        { s with
          nextHandler := s.nextHandler + 1
          registry := (s.registry.remove (.ofClosed d)).2
          handlers := s.handlers ++ [(s.nextHandler, .stop (.ofClosed d) session)]
          fleet := s.fleet.modify session beginStop }) := by
  rw [perform]
  dsimp only
  rw [closeDocument_of_get?_eq_some unneeded stored]
  rfl

/-- The handler that has begun last is found by its number. -/
theorem Numbered.waiting?_append (h : s.Numbered) {t : State} {waiting : Waiting}
    (added : t.handlers = s.handlers ++ [(s.nextHandler, waiting)]) :
    t.waiting? s.nextHandler = some waiting := by
  have absent : s.handlers.lookup s.nextHandler = none := by
    refine List.lookup_eq_none_iff.mpr fun entry member => ?_
    exact bne_iff_ne.mpr (Nat.ne_of_gt (h entry member))
  rw [waiting?, added, List.lookup_append, absent]
  simp

theorem finishStop_of_stop {key : ScopeKey} {session : Nat}
    (waits : s.waiting? handler = some (.stop key session)) (result : Except Session.Error Unit) :
    s.finishStop handler result = (some (finishClose key result), s.dropHandler handler) := by
  rw [finishStop, waits]

/-- Outside workspace folders, the key of a document's scope is the one that its close takes out.
So if a document was opened, and a session was started for it whatever happened meanwhile, then its
close stops this session unless another open document shares it. Of the key nothing is left in the
registry, and about every other key it says what it said before. -/
theorem close_reverses_open :
    (∀ home d folder scope, resolve home d folder = some scope → scope.kind ≠ .workspaceFolder →
      scope.key = .ofClosed d) ∧
    ∀ (s : State) (d : Document), s.Numbered →
      (∀ scope, s.workspace.resolve s.home d = some scope → scope.kind ≠ .workspaceFolder) →
      ∀ (later : List Event) (result : Except Session.Error Unit) (key : ScopeKey),
        let opened := s.perform (.openDocument d)
        let before := opened.2.2.run later
        let started := before.finishStart opened.1 result
        started.1 = some (.opened (.started key)) →
        ∀ w : Workspace,
          (∀ e ∈ w.documents, e.uri.text ≠ d.uri.text →
            (d.isUntitled → ¬ e.isUntitled) ∧ (d.isCell → ¬ e.sameNotebook d)) →
          let closed := (started.2.step (.workspaceChanged w)).perform (.closeDocument d)
          let stopped := closed.2.2.finishStop closed.1 (.ok ())
          closed.2.2.waiting? closed.1 = some (.stop key before.fleet.length) ∧
            stopped.1 = some (.closed (.stopped key)) ∧
            stopped.2.registry.get? key = none ∧ key ∉ stopped.2.registry.marked ∧
            Registry.SameBut key s.registry opened.2.2.registry ∧
            Registry.SameBut key before.registry stopped.2.registry := by
  have keys : ∀ home d folder scope, resolve home d folder = some scope →
      scope.kind ≠ .workspaceFolder → scope.key = .ofClosed d :=
    fun home d folder scope resolved => (belongs_of_resolve resolved).key_eq_ofClosed
  refine ⟨keys, ?_⟩
  intro s d numbered outside later result key opened before started starts w alone closed stopped
  -- The handler of the open waits for the start of the scope that the document had.
  have awaits : before.Awaits opened.1 (s.workspace.resolve s.home d) :=
    (numbered.awaits_openDocument d).run later
  obtain ⟨scope, resolved, rfl, after⟩ := awaits.finishStart_eq starts
  have same : scope.key = .ofClosed d := keys _ _ _ _ resolved (outside scope resolved)
  have fresh : (started.2.step (.workspaceChanged w)).Numbered :=
    (awaits.numbered.step (.startEnded opened.1 result)).step (.workspaceChanged w)
  have stored : started.2.registry.get? (.ofClosed d) = some before.fleet.length := by
    rw [after, ← same, Registry.get?_complete, if_pos rfl]
  have unneeded : ¬ stillNeeded (started.2.step (.workspaceChanged w)).workspace d :=
    not_stillNeeded_of_alone alone
  have closing := perform_closeDocument_of_get?_eq_some unneeded stored
  have waits : closed.2.2.waiting? closed.1 = some (.stop scope.key before.fleet.length) := by
    rw [show closed = _ from closing, same]
    exact fresh.waiting?_append rfl
  have registry : stopped.2.registry =
      ((before.registry.complete scope.key before.fleet.length).remove scope.key).2 := by
    rw [show stopped = _ from finishStop_of_stop waits _, show closed = _ from closing, ← same]
    show (started.2.registry.remove scope.key).2 = _
    rw [after]
  refine ⟨waits, ?_, ?_, ?_, ?_, ?_⟩
  · rw [show stopped = _ from finishStop_of_stop waits _]
    rfl
  · rw [registry]
    simp
  · rw [registry]
    simp
  · rw [show opened.2.2.registry = _ from registry_record _ _ _]
    exact @sameBut_openDocument s.view d scope resolved s.registry
  · rw [registry]
    exact (Registry.sameBut_complete _ _ _).trans (Registry.sameBut_remove _ _)

/-- A buffer is opened in a host that has a session for a folder and is starting another. While its
session starts, the folder's server dies and a second buffer is opened; then the first is closed. -/
theorem close_reverses_open_buffer :
    let home : FilePath := ⟨Utf8.encode ['/']⟩
    let d := buffer "Untitled-1"
    let s : State :=
      { home
        registry := { sessions := [(⟨"file:///work"⟩, 0)], marked := [⟨"file:///other"⟩] }
        fleet := [{ scope := bufferScope home }] }
    let second : Event := .job (.openDocument (buffer "Untitled-2"))
    let opened := s.perform (.openDocument d)
    let before := opened.2.2.run [.crashed 0, second]
    let started := before.finishStart opened.1 (.ok ())
    let closed := (started.2.step (.workspaceChanged {})).perform (.closeDocument d)
    let stopped := closed.2.2.finishStop closed.1 (.ok ())
    (bufferScope home).key = .ofClosed d ∧ s.Numbered ∧
      started.1 = some (.opened (.started .untitled)) ∧
      closed.2.2.waiting? closed.1 = some (.stop .untitled before.fleet.length) ∧
      stopped.1 = some (.closed (.stopped .untitled)) ∧
      stopped.2.registry.get? .untitled = none ∧
      .untitled ∉ stopped.2.registry.marked ∧
      Registry.SameBut .untitled s.registry opened.2.2.registry ∧
      Registry.SameBut .untitled before.registry stopped.2.registry := by
  intro home d s second
  obtain ⟨keys, reverses⟩ := close_reverses_open
  have resolved : resolve home d none = some (bufferScope home) := rfl
  have numbered : s.Numbered := fun entry member => absurd member List.not_mem_nil
  have outside : ∀ scope, s.workspace.resolve s.home d = some scope →
      scope.kind ≠ .workspaceFolder := by
    rintro scope ⟨⟩
    decide
  have alone : ∀ e ∈ ({} : Workspace).documents, e.uri.text ≠ d.uri.text →
      (d.isUntitled → ¬ e.isUntitled) ∧ (d.isCell → ¬ e.sameNotebook d) :=
    fun e member => absurd member List.not_mem_nil
  exact ⟨keys home d none (bufferScope home) resolved (by decide), numbered, rfl,
    reverses s d numbered outside [.crashed 0, second] (.ok ()) .untitled rfl {} alone⟩

end State

end Lifecycle

end RLanguageHost
