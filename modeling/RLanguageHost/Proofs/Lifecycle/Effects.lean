import RLanguageHost.Proofs.Lifecycle.Clearing

/-!
# What events do to keys

Every event has an effect on every key, which `State.effect` reads off the event and the state
before it. In a sound state that is all it does: `Sound.step` says that the state after the event is
sound again, and that every key then stands where the effect has put it.

A run is looked at event by event. `Along` says something of every event of a run in the state in
which it comes.
-/

namespace RLanguageHost.Lifecycle

/-- The folders that a handler goes on with when the session that it stops has ended. -/
def Waiting.remaining : Waiting → List Folder
  | .removal _ _ rest _ => rest
  | .start .. | .stop .. => []

/-- An opened document takes no session out, and at most a session for its scope is started. -/
theorem openDocument_cases (view : View) (r : Registry) (d : Document) :
    (∀ key, (openDocument view r d).2.get? key = r.get? key) ∧
      ((∃ outcome, (openDocument view r d).1 = .finished outcome) ∨
        ∃ scope, view.workspace.resolve view.home d = some scope ∧
          (openDocument view r d).1 = .suspended (.start scope)) := by
  unfold openDocument
  cases resolved : view.workspace.resolve view.home d with
  | none => exact ⟨fun _ => rfl, .inl ⟨_, rfl⟩⟩
  | some scope =>
      dsimp only
      by_cases marked : scope.key ∈ r.marked
      · rw [Registry.begin_of_marked marked]
        exact ⟨fun _ => rfl, .inl ⟨_, rfl⟩⟩
      · rw [Registry.begin_of_unmarked marked]
        split
        · next checked =>
          obtain ⟨-, rfl⟩ := Prod.mk.inj checked
          exact ⟨fun _ => Registry.get?_mark, .inl ⟨_, rfl⟩⟩
        · next checked =>
          obtain ⟨-, rfl⟩ := Prod.mk.inj checked
          exact ⟨fun _ => Registry.get?_mark, .inr ⟨scope, rfl, rfl⟩⟩

namespace State

variable {s : State} {key : ScopeKey}

/-- What an event does to a key. -/
def effect (s : State) (key : ScopeKey) : Event → Effect
  | .job (.openDocument d) =>
    if (s.workspace.resolve s.home d).map (·.key) = some key then .asked s.nextHandler
    else .untouched
  | .job (.closeDocument d) =>
    if ¬ stillNeeded s.workspace d ∧ ScopeKey.ofClosed d = key then .cleared else .untouched
  | .job (.removeFolders folders) =>
    if key ∈ reached s.registry folders then .cleared else .untouched
  | .startEnded handler result =>
    if handler ∈ s.starting key then
      match result with
      | .ok () => .completed handler s.fleet.length
      | .error _ => .givenUp handler
    else .untouched
  | .stopEnded handler _ =>
    if key ∈ reached s.registry (((s.waiting? handler).map (·.remaining)).getD []) then .cleared
    else .untouched
  | .abandoned handler => if handler ∈ s.starting key then .givenUp handler else .untouched
  | .crashed session => .died session
  | .deactivated => .cleared
  | .workspaceChanged _ => .untouched

/-- Only a handler that waits for a start ends it. -/
theorem allows_effect (e : Event) : (s.standing key).Allows (s.effect key e) := by
  cases e with
  | job job =>
      cases job with
      | openDocument | closeDocument | removeFolders =>
          simp only [effect]
          split <;> trivial
  | startEnded handler result =>
      simp only [effect]
      split
      · next waits => cases result <;> exact waits
      · trivial
  | abandoned handler =>
      rw [effect]
      split
      · next waits => exact waits
      · trivial
  | stopEnded =>
      simp only [effect]
      split <;> trivial
  | crashed | deactivated | workspaceChanged => trivial

/-- The state after an event is sound, and every key stands where the event has put it. -/
structure Follows (s t : State) (e : Event) : Prop where
  sound : t.Sound
  standing : ∀ key, t.standing key = (s.standing key).apply (s.effect key e)

theorem standing_eq {a : Standing} (starting : s.starting key = a.starting)
    (marked : s.registry.isMarked key = a.marked) (stored : s.registry.get? key = a.stored)
    (alive : s.alive key = a.alive) : s.standing key = a := by
  rw [standing, starting, marked, stored, alive]

/-! ## Opening a document -/

theorem Sound.mark (h : s.Sound) (key : ScopeKey) :
    Sound { s with registry := s.registry.mark key } :=
  h.withRegistry h.sorted.mark fun _ _ stored => by rwa [Registry.get?_mark] at stored

theorem step_openDocument (d : Document) :
    s.step (.job (.openDocument d)) =
      ({ s with nextHandler := s.nextHandler + 1 }.record s.nextHandler
        (openDocument s.view s.registry d).1 (openDocument s.view s.registry d).2).2 := rfl

section

variable {d : Document} {scope : Scope}
variable (resolved : s.workspace.resolve s.home d = some scope)
include resolved

theorem openDocument_of_marked (marked : scope.key ∈ s.registry.marked) :
    openDocument s.view s.registry d = (.finished (.opened .alreadyHandled), s.registry) := by
  rw [openDocument, view, resolved]
  dsimp only
  rw [Registry.begin_of_marked marked]

theorem openDocument_of_served (unmarked : scope.key ∉ s.registry.marked)
    (served : s.isServed scope.key) :
    openDocument s.view s.registry d =
      (.finished (.opened .alreadyHandled), s.registry.mark scope.key) := by
  rw [openDocument, view, resolved]
  dsimp only
  rw [Registry.begin_of_unmarked unmarked,
    if_pos (show (s.registry.get? _).any s.isLive from served)]

theorem openDocument_of_unserved (unmarked : scope.key ∉ s.registry.marked)
    (unserved : ¬ s.isServed scope.key) :
    openDocument s.view s.registry d =
      (.suspended (.start scope), s.registry.mark scope.key) := by
  rw [openDocument, view, resolved]
  dsimp only
  rw [Registry.begin_of_unmarked unmarked,
    if_neg (show ¬ (s.registry.get? _).any s.isLive from unserved)]

theorem effect_openDocument :
    s.effect key (.job (.openDocument d)) =
      if scope.key = key then .asked s.nextHandler else .untouched := by
  rw [effect, resolved, Option.map_some]
  simp only [Option.some_inj]

theorem Sound.open_marked (h : s.Sound) (marked : scope.key ∈ s.registry.marked) :
    Follows s (s.step (.job (.openDocument d))) (.job (.openDocument d)) := by
  rw [State.step_openDocument, openDocument_of_marked resolved marked]
  refine ⟨h.next, fun key => ?_⟩
  rw [effect_openDocument resolved]
  split
  · next same =>
    subst same
    rw [Standing.apply_asked_of_marked (Registry.isMarked_iff.mpr marked)]
    exact standing_eq rfl rfl rfl rfl
  · exact standing_eq rfl rfl rfl rfl

theorem Sound.open_served (h : s.Sound) (unmarked : scope.key ∉ s.registry.marked)
    (served : s.isServed scope.key) :
    Follows s (s.step (.job (.openDocument d))) (.job (.openDocument d)) := by
  rw [State.step_openDocument, openDocument_of_served resolved unmarked served]
  refine ⟨h.next.mark scope.key, fun key => ?_⟩
  rw [effect_openDocument resolved]
  split
  · next same =>
    subst same
    rw [← h.isServed_standing] at served
    rw [Standing.apply_asked_of_served (mt Registry.isMarked_iff.mp unmarked) served]
    exact standing_eq rfl (Registry.isMarked_mark.trans (by simp)) Registry.get?_mark rfl
  · next differs =>
    refine standing_eq rfl (Registry.isMarked_mark.trans ?_) Registry.get?_mark rfl
    simp [Ne.symm differs, standing, Standing.apply]

theorem Sound.open_unserved (h : s.Sound) (unmarked : scope.key ∉ s.registry.marked)
    (unserved : ¬ s.isServed scope.key) :
    Follows s (s.step (.job (.openDocument d))) (.job (.openDocument d)) := by
  have scopes : ∀ other, Waiting.start scope = .start other →
      ∃ w : Workspace, ∃ d, w.resolve s.home d = some other := by
    rintro _ ⟨⟩
    exact ⟨s.workspace, d, resolved⟩
  have sound := (h.next.mark scope.key).push h.next_not_mem (Nat.lt_succ_self _) scopes
  rw [State.step_openDocument, openDocument_of_unserved resolved unmarked unserved]
  refine ⟨{ sound with }, fun key => ?_⟩
  rw [effect_openDocument resolved]
  split
  · next same =>
    subst same
    rw [← h.isServed_standing] at unserved
    rw [Standing.apply_asked_of_unserved (mt Registry.isMarked_iff.mp unmarked) unserved]
    refine standing_eq ?_ (Registry.isMarked_mark.trans (by simp)) Registry.get?_mark rfl
    refine (starting_append rfl).trans ?_
    rw [if_pos (by rfl)]
    rfl
  · next differs =>
    refine standing_eq ?_ (Registry.isMarked_mark.trans ?_) Registry.get?_mark rfl
    · refine (starting_append rfl).trans ?_
      rw [if_neg (by simpa [Waiting.startKey?] using differs), List.append_nil]
      rfl
    · simp [Ne.symm differs, standing, Standing.apply]

end

theorem Sound.step_openDocument (h : s.Sound) (d : Document) :
    Follows s (s.step (.job (.openDocument d))) (.job (.openDocument d)) := by
  cases resolved : s.workspace.resolve s.home d with
  | none =>
      rw [State.step_openDocument,
        show openDocument s.view s.registry d = (.finished (.opened .ignored), s.registry) by
          rw [openDocument, view, resolved]]
      refine ⟨h.next, fun key => ?_⟩
      rw [effect, resolved, Option.map_none, if_neg (by simp)]
      exact standing_eq rfl rfl rfl rfl
  | some scope =>
      by_cases marked : scope.key ∈ s.registry.marked
      · exact h.open_marked resolved marked
      · by_cases served : s.isServed scope.key
        · exact h.open_served resolved marked served
        · exact h.open_unserved resolved marked served

/-! ## Taking keys out -/

theorem Sound.step_closeDocument (h : s.Sound) (d : Document) :
    Follows s (s.step (.job (.closeDocument d))) (.job (.closeDocument d)) := by
  obtain ⟨sound, stands⟩ := h.next.record_of_clearing h.next_not_mem (Nat.lt_succ_self _)
    (clearing_closeDocument s.view s.registry d)
  refine ⟨sound, fun key => (stands key).trans (congrArg (s.standing key).apply ?_)⟩
  change (if key ∈ if stillNeeded s.workspace d then [] else [ScopeKey.ofClosed d] then
    Effect.cleared else .untouched) = s.effect key (.job (.closeDocument d))
  rw [effect]
  by_cases needed : stillNeeded s.workspace d
  · simp [needed]
  · simp [needed, eq_comm]

theorem Sound.step_removeFolders (h : s.Sound) (folders : List Folder) :
    Follows s (s.step (.job (.removeFolders folders))) (.job (.removeFolders folders)) := by
  obtain ⟨sound, stands⟩ := h.next.record_of_clearing h.next_not_mem (Nat.lt_succ_self _)
    (clearing_removeFolders s.registry [] folders)
  exact ⟨sound, stands⟩

/-- A handler that waits for a stop concerns no key. -/
theorem Sound.standing_dropHandler (h : s.Sound) {handler : Nat}
    (stops : (s.waiting? handler).bind (·.startKey?) = none) :
    (s.dropHandler handler).standing key = s.standing key := by
  have elsewhere : handler ∉ s.starting key := by
    rw [h.mem_starting_iff, stops]
    exact Option.some_ne_none key ∘ Eq.symm
  exact standing_eq (starting_dropHandler_of_not_mem elsewhere) rfl rfl rfl

theorem Sound.step_stopEnded (h : s.Sound) (handler : Nat) (result : Except Session.Error Unit) :
    Follows s (s.step (.stopEnded handler result)) (.stopEnded handler result) := by
  rw [step, finishStop]
  cases waits : s.waiting? handler with
  | none =>
      refine ⟨h, fun key => ?_⟩
      simp [effect, waits, reached, Standing.apply]
  | some waiting =>
      cases waiting with
      | start =>
          refine ⟨h, fun key => ?_⟩
          simp [effect, waits, Waiting.remaining, reached, Standing.apply]
      | stop =>
          refine ⟨h.dropHandler handler, fun key => ?_⟩
          have stands : (s.dropHandler handler).standing key = s.standing key :=
            h.standing_dropHandler (by rw [waits]; rfl)
          simpa [effect, waits, Waiting.remaining, reached, Standing.apply] using stands
      | removal key session rest stopped =>
          have known : handler ∈ s.handlers.map (·.1) :=
            List.mem_map.mpr ⟨_, h.waiting?_eq_some_iff.mp waits, rfl⟩
          have fresh : handler ∉ (s.dropHandler handler).handlers.map (·.1) := by
            simp [mem_dropHandler]
          obtain ⟨sound, stands⟩ := (h.dropHandler handler).record_of_clearing fresh
            (h.numbered handler known) (clearing_removeFolders s.registry (stopped ++ [key]) rest)
          refine ⟨sound, fun key => (stands key).trans ?_⟩
          rw [h.standing_dropHandler (by rw [waits]; rfl)]
          simp only [effect, waits]
          rfl

/-! ## The end of a start -/

/-- A start ends without a session. -/
theorem Sound.giveUp (h : s.Sound) {handler : Nat} {scope : Scope}
    (waits : s.waiting? handler = some (.start scope)) :
    Sound { s.dropHandler handler with registry := s.registry.abandon scope.key } ∧
      ∀ key, standing { s.dropHandler handler with registry := s.registry.abandon scope.key } key =
        (s.standing key).apply
          (if handler ∈ s.starting key then .givenUp handler else .untouched) := by
  refine ⟨(h.dropHandler handler).withRegistry h.sorted.abandon fun _ _ stored => stored, ?_⟩
  intro key
  by_cases starts : handler ∈ s.starting key
  · rw [if_pos starts]
    obtain rfl := (h.mem_starting_iff_of_waits waits).mp starts
    refine standing_eq (starting_dropHandler handler) ?_ rfl rfl
    exact Registry.isMarked_abandon.trans (by simp [Standing.apply])
  · rw [if_neg starts]
    have differs := mt (h.mem_starting_iff_of_waits waits).mpr starts
    refine standing_eq (starting_dropHandler_of_not_mem starts) ?_ rfl rfl
    exact Registry.isMarked_abandon.trans (by simp [Standing.apply, standing, Ne.symm differs])

theorem step_startEnded_ok {handler : Nat} {scope : Scope}
    (waits : s.waiting? handler = some (.start scope)) :
    s.step (.startEnded handler (.ok ())) =
      { s.dropHandler handler with
        registry := s.registry.complete scope.key s.fleet.length
        fleet := s.fleet ++ [{ scope }] } := by
  rw [step, finishStart, waits]
  rfl

/-- A start ends with a session. -/
theorem Sound.finish (h : s.Sound) {handler : Nat} {scope : Scope}
    (waits : s.waiting? handler = some (.start scope)) :
    Follows s (s.step (.startEnded handler (.ok ()))) (.startEnded handler (.ok ())) := by
  rw [step_startEnded_ok waits]
  refine ⟨{ h.dropHandler handler with sorted := h.sorted.complete, own := ?_ }, fun key => ?_⟩
  · intro key session stored
    rw [Registry.get?_complete] at stored
    rw [fleetKeys_append rfl]
    split at stored
    · next same =>
      obtain rfl := Option.some.inj stored
      rw [← length_fleetKeys, List.getElem?_concat_length, same]
    · have known := h.own key session stored
      rw [List.getElem?_append_left (List.getElem?_eq_some_iff.mp known).1]
      exact known
  · simp only [effect]
    by_cases starts : handler ∈ s.starting key
    · rw [if_pos starts]
      obtain rfl := (h.mem_starting_iff_of_waits waits).mp starts
      refine standing_eq (starting_dropHandler handler) (Registry.isMarked_complete.trans ?_) ?_ ?_
      · simp [Standing.apply]
      · simp [Standing.apply]
      · refine (alive_append rfl rfl).trans ?_
        rw [if_pos rfl]
        rfl
    · rw [if_neg starts]
      have differs := mt (h.mem_starting_iff_of_waits waits).mpr starts
      refine standing_eq (starting_dropHandler_of_not_mem starts)
        (Registry.isMarked_complete.trans ?_) ?_ ?_
      · simp [Standing.apply, standing, Ne.symm differs]
      · simp [Standing.apply, standing, Ne.symm differs]
      · refine (alive_append rfl rfl).trans ?_
        rw [if_neg differs, List.append_nil]
        rfl

/-- The end of a start that no handler waits for changes nothing. -/
theorem step_startEnded_of_not_waiting {handler : Nat}
    (elsewhere : ∀ scope, s.waiting? handler ≠ some (.start scope))
    (result : Except Session.Error Unit) : s.step (.startEnded handler result) = s := by
  rw [step, finishStart]
  split
  · next scope waits => exact absurd waits (elsewhere scope)
  · rfl

/-- The end of a start that no handler waits for has no effect. -/
theorem Sound.not_mem_starting (h : s.Sound) {handler : Nat}
    (elsewhere : ∀ scope, s.waiting? handler ≠ some (.start scope)) : handler ∉ s.starting key := by
  intro member
  obtain ⟨scope, waits, _⟩ := mem_starting.mp member
  exact elsewhere scope (h.waiting?_eq_some_iff.mpr waits)

theorem Sound.step_startEnded (h : s.Sound) (handler : Nat) (result : Except Session.Error Unit) :
    Follows s (s.step (.startEnded handler result)) (.startEnded handler result) := by
  by_cases starts : ∃ scope, s.waiting? handler = some (.start scope)
  · obtain ⟨scope, waits⟩ := starts
    cases result with
    | ok => exact h.finish waits
    | error e =>
        obtain ⟨sound, stands⟩ := h.giveUp waits
        rw [step, finishStart, waits]
        exact ⟨sound, stands⟩
  · have elsewhere := not_exists.mp starts
    rw [step_startEnded_of_not_waiting elsewhere]
    refine ⟨h, fun key => ?_⟩
    simp only [effect]
    rw [if_neg (h.not_mem_starting elsewhere)]
    rfl

theorem Sound.step_abandoned (h : s.Sound) (handler : Nat) :
    Follows s (s.step (.abandoned handler)) (.abandoned handler) := by
  rw [step, abandonHandler]
  cases waits : s.waiting? handler with
  | none =>
      refine ⟨h, fun key => ?_⟩
      rw [effect, if_neg (h.not_mem_starting (by simp [waits]))]
      rfl
  | some waiting =>
      cases waiting with
      | start scope =>
          obtain ⟨sound, stands⟩ := h.giveUp waits
          exact ⟨sound, stands⟩
      | stop | removal =>
          refine ⟨{ h.dropHandler handler with }, fun key => ?_⟩
          rw [effect, if_neg (h.not_mem_starting (by simp [waits]))]
          exact h.standing_dropHandler (by rw [waits]; rfl)

/-! ## Sessions that end -/

theorem Sound.step_crashed (h : s.Sound) (session : Nat) :
    Follows s (s.step (.crashed session)) (.crashed session) where
  sound := h.modify ends_crash session
  standing := fun _ => standing_eq rfl rfl rfl (ends_crash.alive rfl)

/-- Ending several sessions: those that are among them are alive no more. -/
theorem Sound.stopAll (h : s.Sound) (entries : List (ScopeKey × Nat)) :
    let t := entries.foldl (fun s entry => s.modify entry.2 beginStop) s
    t.Sound ∧ t.handlers = s.handlers ∧ t.registry = s.registry ∧
      ∀ key, t.alive key = (s.alive key).filter (· ∉ entries.map (·.2)) := by
  induction entries generalizing s with
  | nil => exact ⟨h, rfl, rfl, fun _ => (List.filter_eq_self.mpr fun _ _ => by simp).symm⟩
  | cons entry rest ih =>
      obtain ⟨sound, handlers, registry, alive⟩ := ih (h.modify ends_beginStop entry.2)
      refine ⟨sound, handlers, registry, fun key => (alive key).trans ?_⟩
      rw [ends_beginStop.alive rfl, List.filter_filter]
      refine List.filter_congr fun session _ => ?_
      rw [Bool.eq_iff_iff]
      simp [and_comm]

/-- A session that is alive for a key is stored anywhere only if it is stored under the key. -/
theorem Sound.mem_sessions_of_alive (h : s.Sound) {session : Nat} (alive : session ∈ s.alive key) :
    session ∈ s.registry.sessions.map (·.2) ↔ s.registry.get? key = some session := by
  constructor
  · intro member
    obtain ⟨⟨other, _⟩, entry, rfl⟩ := List.mem_map.mp member
    have stored := h.sorted.mem_sessions_iff.mp entry
    by_cases same : key = other
    · rw [same]
      exact stored
    · exact absurd alive (h.not_mem_alive stored same)
  · intro stored
    exact List.mem_map.mpr ⟨(key, session), h.sorted.mem_sessions_iff.mpr stored, rfl⟩

theorem Sound.step_deactivated (h : s.Sound) : Follows s (s.step .deactivated) .deactivated := by
  have emptied : Sound { s with registry := {} } :=
    h.withRegistry Registry.sorted_empty fun _ _ stored => by cases stored
  -- All sessions that are stored are ended, which for one key are those stored under it.
  obtain ⟨sound, handlers, registry, alive⟩ := emptied.stopAll s.registry.sessions
  refine ⟨sound, fun key => ?_⟩
  refine standing_eq ?_ ?_ ?_ ((alive key).trans ?_)
  · exact congrArg (fun handlers => State.starting { s with handlers } key) handlers
  · exact congrArg (Registry.isMarked · key) registry
  · exact congrArg (Registry.get? · key) registry
  · refine List.filter_congr fun session member => ?_
    refine decide_eq_decide.mpr (not_congr ?_)
    exact (h.mem_sessions_of_alive member).trans eq_comm

/-! ## Events -/

/-- What an event does, it does to each key by itself. -/
theorem Sound.step (h : s.Sound) (e : Event) : Follows s (s.step e) e := by
  cases e with
  | job job =>
      cases job with
      | openDocument d => exact h.step_openDocument d
      | closeDocument d => exact h.step_closeDocument d
      | removeFolders folders => exact h.step_removeFolders folders
  | startEnded handler result => exact h.step_startEnded handler result
  | stopEnded handler result => exact h.step_stopEnded handler result
  | abandoned handler => exact h.step_abandoned handler
  | crashed session => exact h.step_crashed session
  | deactivated => exact h.step_deactivated
  | workspaceChanged workspace => exact ⟨{ h with }, fun _ => rfl⟩

end State

end RLanguageHost.Lifecycle
