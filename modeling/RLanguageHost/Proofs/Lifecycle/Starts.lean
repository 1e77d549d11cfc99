import RLanguageHost.Proofs.Lifecycle.Runs

/-!
# Starts

As long as nothing is closed, removed or stopped, the mark in the registry does what it is there
for: however opens, the ends of starts, deaths of sessions and changes of the workspace follow each
other, at most one session is being started for a key, none is started beside one that runs, and
none that runs loses its place. A start that fails, or whose handler is given up, leaves the key
idle. From then on the first open of a document of the scope starts a session.

A key that is cleared while a session is being started for it is left without the mark that would
have answered the next open: the key is exposed. Some document has the scope whose session is being
started, so the workspace can become one in which that document is opened again, and then a second
session is being started for the key. In an orderly state there is no other way to this:
`can_start_twice_iff` says so for every event.
-/

namespace RLanguageHost.Lifecycle.State

variable {s : State} {key : ScopeKey}

/-! ## While documents are opened -/

/-- The ways in which a start can end without a session. -/
inductive Event.GivesUp (handler : Nat) : Event → Prop where
  | abandoned : GivesUp handler (.abandoned handler)
  | failed (error : Session.Error) : GivesUp handler (.startEnded handler (.error error))

/-- A start that ends without a session takes the handler and the mark away, and nothing else. -/
theorem Event.GivesUp.step_eq {e : Event} {handler : Nat} (givesUp : e.GivesUp handler)
    {scope : Scope} (waits : s.waiting? handler = some (.start scope)) :
    s.step e = { s.dropHandler handler with registry := s.registry.abandon scope.key } := by
  cases givesUp with
  | abandoned =>
      rw [step, abandonHandler, waits]
      rfl
  | failed error =>
      rw [step, finishStart, waits]
      rfl

theorem Event.GivesUp.effect_eq {e : Event} {handler : Nat} (givesUp : e.GivesUp handler)
    (starts : handler ∈ s.starting key) : s.effect key e = .givenUp handler := by
  cases givesUp with
  | abandoned => rw [effect, if_pos starts]
  | failed error =>
      simp only [effect]
      rw [if_pos starts]

/-- An orderly key is idle after its start has ended without a session. -/
theorem OrderlyAt.idleAt_step (h : OrderlyAt key s) {e : Event} {handler : Nat}
    (givesUp : e.GivesUp handler) (starts : handler ∈ s.starting key) : IdleAt key (s.step e) := by
  obtain ⟨sound, stands⟩ := h.sound.step e
  refine ⟨sound, ?_⟩
  rw [stands, givesUp.effect_eq starts]
  exact h.orderly.idle_givenUp starts

theorem IdleAt.not_isServed (h : IdleAt key s) : ¬ s.isServed key := by
  rw [← h.sound.isServed_standing]
  exact h.idle.unserved

/-- The first open of a document whose key is idle starts a session. -/
theorem IdleAt.open_starts (h : IdleAt key s) {d : Document} {scope : Scope}
    (resolved : s.workspace.resolve s.home d = some scope) (same : scope.key = key) :
    (s.step (.job (.openDocument d))).waiting? s.nextHandler = some (.start scope) := by
  subst same
  rw [(h.sound.step (.job (.openDocument d))).sound.waiting?_eq_some_iff, step_openDocument,
    openDocument_of_unserved resolved (mt Registry.isMarked_iff.mpr h.idle.unmarked) h.not_isServed]
  exact List.mem_append_right _ List.mem_cons_self

/-- While documents are opened, at most one session is being started for a key; no start begins
while a session for the key runs; no session that runs is displaced; and a start that fails or is
given up leaves the sessions as they are and the key unmarked, so that the next open of the scope
starts a session. -/
theorem openings_start_once (home : FilePath) (workspace : Workspace) (events : List Event)
    (opening : ∀ e ∈ events, e.isOpening) :
    let s := run { home, workspace } events
    (∀ key, (s.starting key).length ≤ 1) ∧
      (∀ e key handler, handler ∈ (s.step e).starting key → handler ∉ s.starting key →
        ¬ s.isServed key) ∧
      (∀ key, ¬ s.Displaces key) ∧
      ∀ handler scope e, s.waiting? handler = some (.start scope) → e.GivesUp handler →
        let t := s.step e
        t.registry.sessions = s.registry.sessions ∧ t.fleet = s.fleet ∧
          scope.key ∉ t.registry.marked ∧
          ∀ later, Along (Unasked scope.key) t later →
            let u := t.run later
            ∀ d scope', u.workspace.resolve u.home d = some scope' → scope'.key = scope.key →
              ¬ u.isServed scope.key ∧
                (u.step (.job (.openDocument d))).waiting? u.nextHandler =
                  some (.start scope') := by
  intro s
  have orderly : ∀ key, OrderlyAt key s := fun key =>
    (orderlyAt_initial home workspace).run (undisturbed_of_openings opening)
  have sound : s.Sound := (sound_initial home workspace).run events
  refine ⟨fun key => (orderly key).orderly.single, ?_, fun key => (orderly key).not_displaces, ?_⟩
  · exact fun e key handler waits new => sound.not_isServed_of_new waits new
  · intro handler scope e waits givesUp
    have starts : handler ∈ s.starting scope.key := (sound.mem_starting_iff_of_waits waits).mpr rfl
    have idle := (orderly scope.key).idleAt_step givesUp starts
    refine ⟨?_, ?_, mt Registry.isMarked_iff.mpr idle.idle.unmarked, ?_⟩
    · rw [givesUp.step_eq waits]
      rfl
    · rw [givesUp.step_eq waits]
      rfl
    · intro later unasked u d scope' resolved same
      have idle' := idle.run unasked
      exact ⟨idle'.not_isServed, idle'.open_starts resolved same⟩

/-- Two buffers are opened, and their session fails to start. The second is opened again and its
handler given up; then the first, opened once more, starts a session. -/
theorem openings_start_once_buffers :
    let home : FilePath := ⟨Utf8.encode ['/']⟩
    let first : Event := .job (.openDocument (buffer "Untitled-1"))
    let second : Event := .job (.openDocument (buffer "Untitled-2"))
    let events := [first, second, .startEnded 0 (.error (.startupFailed "R is missing")), second]
    let s := run { home } events
    let u := (s.step (.abandoned 2)).run [.crashed 0]
    (∀ e ∈ events, e.isOpening) ∧ (s.starting .untitled).length ≤ 1 ∧
      s.waiting? 2 = some (.start (bufferScope home)) ∧
      (u.step first).waiting? u.nextHandler = some (.start (bufferScope home)) := by
  intro home first second events s u
  have opening : ∀ e ∈ events, e.isOpening := by decide
  have waits : s.waiting? 2 = some (.start (bufferScope home)) := rfl
  obtain ⟨single, _, _, retried⟩ := openings_start_once home {} events opening
  obtain ⟨_, _, _, later⟩ := retried 2 (bufferScope home) (.abandoned 2) waits .abandoned
  obtain ⟨_, starts⟩ := later [.crashed 0] ⟨fun _ => Effect.noConfusion, trivial⟩
    (buffer "Untitled-1") (bufferScope home) rfl rfl
  exact ⟨opening, single .untitled, waits, starts⟩

/-! ## A second start beside the first -/

/-- A session is being started for a key that nothing keeps from being started again. -/
structure ExposedAt (key : ScopeKey) (s : State) : Prop where
  sound : s.Sound
  started : s.starting key ≠ []
  unmarked : ¬ (s.standing key).marked
  unserved : ¬ (s.standing key).isServed

/-- Clearing a key while a session is being started for it exposes the key. -/
theorem Sound.exposedAt_step (h : s.Sound) {e : Event} (cleared : s.effect key e = .cleared)
    (started : s.starting key ≠ []) : ExposedAt key (s.step e) := by
  obtain ⟨sound, stands⟩ := h.step e
  have stand : (s.step e).standing key = (s.standing key).apply .cleared := by
    rw [stands, cleared]
  refine ⟨sound, ?_, ?_, ?_⟩
  · rw [show (s.step e).starting key = s.starting key from congrArg Standing.starting stand]
    exact started
  · rw [stand]
    exact Bool.false_ne_true
  · rw [stand]
    exact Standing.not_isServed_of_stored_eq_none rfl

/-- An exposed key can be asked about again, and then a second session is being started. -/
theorem ExposedAt.second_start (h : ExposedAt key s) :
    ∃ again, (∀ e ∈ again, e.isOpening) ∧
      (s.run again).starting key = s.starting key ++ [s.nextHandler] := by
  obtain ⟨handler, waits⟩ := List.exists_mem_of_ne_nil _ h.started
  obtain ⟨scope, member, same⟩ := mem_starting.mp waits
  -- The workspace may have changed since; the one in which the document had the scope comes back.
  obtain ⟨w, d, resolved⟩ := h.sound.resolved handler scope member
  refine ⟨[.workspaceChanged w, .job (.openDocument d)], by simp [Event.isOpening], ?_⟩
  have changed := h.sound.step (.workspaceChanged w)
  have asked : (s.step (.workspaceChanged w)).effect key (.job (.openDocument d)) =
      .asked s.nextHandler := by
    rw [effect]
    exact if_pos (by rw [← same]; exact congrArg (Option.map _) resolved)
  have stands := (changed.sound.step (.job (.openDocument d))).standing key
  rw [asked, changed.standing] at stands
  rw [Standing.apply_asked_of_unserved] at stands
  · exact congrArg Standing.starting stands
  · exact h.unmarked
  · exact h.unserved

/-- An event that clears no key while a session is being started for it leaves an orderly key
orderly, whatever openings follow. -/
theorem OrderlyAt.openings (h : OrderlyAt key s) {e : Event}
    (undisturbed : ¬ (s.effect key e = .cleared ∧ s.starting key ≠ [])) {later : List Event}
    (opening : ∀ x ∈ later, x.isOpening) : OrderlyAt key ((s.step e).run later) := by
  have next : OrderlyAt key (s.step e) :=
    h.step fun cleared => Classical.not_not.mp fun started => undisturbed ⟨cleared, started⟩
  exact next.run (undisturbed_of_openings opening)

/-- Two sessions can come to be started for an orderly key exactly if the next event clears the key
while a session is being started for it. -/
theorem OrderlyAt.can_start_twice_iff (h : OrderlyAt key s) (e : Event) :
    (∃ later, (∀ x ∈ later, x.isOpening) ∧ 1 < (((s.step e).run later).starting key).length) ↔
      s.effect key e = .cleared ∧ s.starting key ≠ [] := by
  constructor
  · rintro ⟨later, opening, twice⟩
    refine Classical.not_not.mp fun undisturbed => ?_
    exact absurd twice (Nat.not_lt.mpr (h.openings undisturbed opening).orderly.single)
  · rintro ⟨cleared, started⟩
    have exposed := h.sound.exposedAt_step cleared started
    obtain ⟨again, opening, starts⟩ := exposed.second_start
    refine ⟨again, opening, ?_⟩
    rw [starts, List.length_append, List.length_singleton]
    exact Nat.lt_add_of_pos_left (List.length_pos_iff.mpr exposed.started)

/-! ## Displaced sessions

A session that was started is stored under the key of its scope, in the place of whatever is there.
As long as no key is cleared while a session is being started for it, what is there needs no stop
any more, and every session that does need one is found under its key.

A key that is cleared at that moment can be started twice. Both sessions are stored one after the
other, and the second displaces the first while it still needs to be stopped: neither a close nor a
deactivation finds it again.
-/

/-- When one of two starts ends, the other can displace its session. -/
theorem Sound.displaces_step (h : s.Sound) {first second : Nat} (waits : first ∈ s.starting key)
    (other : second ∈ s.starting key) (differ : second ≠ first) :
    (s.step (.startEnded first (.ok ()))).Displaces key := by
  obtain ⟨sound, stands⟩ := h.step (.startEnded first (.ok ()))
  have completed : s.effect key (.startEnded first (.ok ())) = .completed first s.fleet.length := by
    rw [effect]
    exact if_pos waits
  have stand := stands key
  rw [completed] at stand
  rw [sound.displaces_iff, ← sound.isServed_standing, stand]
  constructor
  · rw [show (s.step _).starting key = _ from congrArg Standing.starting stand]
    exact List.ne_nil_of_mem (List.mem_filter.mpr ⟨other, decide_eq_true differ⟩)
  · refine Standing.isServed_iff.mpr ⟨s.fleet.length, ?_, rfl⟩
    exact List.mem_append_right _ List.mem_cons_self

/-- From an exposed key a session that needs to be stopped can come to be displaced. -/
theorem ExposedAt.displaces (h : ExposedAt key s) :
    ∃ later, (∀ e ∈ later, e.isOpening) ∧ (s.run later).Displaces key := by
  obtain ⟨again, opening, starts⟩ := h.second_start
  obtain ⟨first, waits⟩ := List.exists_mem_of_ne_nil _ h.started
  have differ : s.nextHandler ≠ first := by
    obtain ⟨scope, member, _⟩ := mem_starting.mp waits
    intro same
    exact h.sound.next_not_mem (List.mem_map.mpr ⟨_, member, same.symm⟩)
  refine ⟨again ++ [.startEnded first (.ok ())], ?_, ?_⟩
  · intro e member
    rcases List.mem_append.mp member with early | last
    · exact opening e early
    · rw [List.mem_singleton.mp last]
      rfl
  · rw [run_append]
    refine (h.sound.run again).displaces_step ?_ ?_ differ
    · rw [starts]
      exact List.mem_append_left _ waits
    · rw [starts]
      exact List.mem_append_right _ List.mem_cons_self

/-- A session that needs to be stopped can come to be displaced from an orderly key exactly if the
next event clears the key while a session is being started for it. -/
theorem OrderlyAt.can_displace_iff (h : OrderlyAt key s) (e : Event) :
    (∃ later, (∀ x ∈ later, x.isOpening) ∧ ((s.step e).run later).Displaces key) ↔
      s.effect key e = .cleared ∧ s.starting key ≠ [] := by
  constructor
  · rintro ⟨later, opening, displaces⟩
    refine Classical.not_not.mp fun undisturbed => ?_
    exact (h.openings undisturbed opening).not_displaces displaces
  · rintro ⟨cleared, started⟩
    exact (h.sound.exposedAt_step cleared started).displaces

/-- As long as no event clears a key while a session is being started for it, no session that still
needs to be stopped is displaced, and each is stored under the key of its scope. The first event
that does clear such a key makes it possible, with openings alone, that one is displaced; no other
event does. -/
theorem live_sessions_stay_stored (home : FilePath) (workspace : Workspace) (events : List Event)
    (undisturbed : Along Undisturbed { home, workspace } events) :
    let s := run { home, workspace } events
    (∀ key, ¬ s.Displaces key) ∧
      (∀ session m, s.fleet[session]? = some m → m.live →
        s.registry.get? m.scope.key = some session) ∧
      ∀ e key, (∃ later, (∀ x ∈ later, x.isOpening) ∧ ((s.step e).run later).Displaces key) ↔
        s.effect key e = .cleared ∧ s.starting key ≠ [] := by
  intro s
  have orderly : ∀ key, OrderlyAt key s := fun key =>
    (orderlyAt_initial home workspace).run undisturbed
  refine ⟨fun key => (orderly key).not_displaces, ?_, fun e key => (orderly key).can_displace_iff e⟩
  intro session m here live
  exact (orderly m.scope.key).orderly.stored session (mem_alive.mpr ⟨m, here, live, rfl⟩)

/-- A buffer is opened, its session started, and stopped when the buffer is closed. Then the buffer
is opened again; up to here nothing is disturbed. To close it now exposes the next session. -/
theorem live_sessions_stay_stored_buffer :
    let home : FilePath := ⟨Utf8.encode ['/']⟩
    let opened : Event := .job (.openDocument (buffer "Untitled-1"))
    let closed : Event := .job (.closeDocument (buffer "Untitled-1"))
    let events := [opened, .startEnded 0 (.ok ()), closed, .stopEnded 1 (.ok ()), opened]
    let s := run { home } events
    Along Undisturbed { home } events ∧ ¬ s.Displaces .untitled ∧
      ∃ later, (∀ x ∈ later, x.isOpening) ∧ ((s.step closed).run later).Displaces .untitled := by
  intro home opened closed events s
  have undisturbed : Along Undisturbed { home } events :=
    ⟨undisturbed_of_isOpening rfl, undisturbed_of_isOpening rfl, fun _ _ => rfl,
      fun _ _ => rfl, undisturbed_of_isOpening rfl, trivial⟩
  obtain ⟨kept, _, exactly⟩ := live_sessions_stay_stored home {} events undisturbed
  exact ⟨undisturbed, kept .untitled, (exactly closed .untitled).mpr ⟨by decide, by decide⟩⟩

/-- A buffer is opened, closed while its session is being started, and opened again. The first
session is stored; then the second takes its place although the first still needs to be stopped, and
a deactivation finds the second only. -/
theorem live_session_displaced :
    let home : FilePath := ⟨Utf8.encode ['/']⟩
    let opened : Event := .job (.openDocument (buffer "Untitled-1"))
    let closed : Event := .job (.closeDocument (buffer "Untitled-1"))
    let s := run { home } [opened, closed, opened, .startEnded 0 (.ok ())]
    let t := s.step (.startEnded 2 (.ok ()))
    s.replaced? (.startEnded 2 (.ok ())) = some (.untitled, 0) ∧ s.isLive 0 ∧
      t.isLive 0 ∧ t.registry.get? .untitled = some 1 ∧ t.drain.1 = [(.untitled, 1)] := by
  decide

end RLanguageHost.Lifecycle.State
