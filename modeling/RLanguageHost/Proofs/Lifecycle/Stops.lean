import RLanguageHost.Proofs.Lifecycle.Deactivation

/-!
# Stopping each session once

A stop is called by a handler that has taken the session out of the registry, or by a task of the
deactivation that has. `Balanced` keeps book of both: the sessions whose stop was called and those
that wait for their tasks are all different, none of them is in the registry, and none of them can
come back, since only new sessions are stored.

So no session is stopped twice, however handlers and deactivations interleave and however their
stops end, and a deactivation that has answered has called the stop of every session that it took
out.
-/

namespace RLanguageHost.Lifecycle

/-! ## The book of one deactivation -/

namespace Deactivation

variable {d : Deactivation} {session : Nat} {stops : List Nat}

/-- Each session of a deactivation waits for its task, is being stopped or has been looked after,
in the last two cases by a call that was made, and what was counted are the good endings. -/
structure Tallied (d : Deactivation) (stops : List Nat) : Prop where
  perm : d.sessions.Perm (d.waiting ++ (d.stopping ++ d.ended.map (·.1)))
  called : ∀ session ∈ d.stopping ++ d.ended.map (·.1), session ∈ stops
  joined : d.joined ≤ d.ended.length
  counted : d.stopped = (d.ended.take d.joined).countP succeeded
  answered : ∀ count, d.answer = some count →
    d.waiting = [] ∧ d.stopping = [] ∧ count = d.ended.countP succeeded

theorem tallied_ofSessions (sessions stops : List Nat) : (ofSessions sessions).Tallied stops where
  perm := .of_eq (List.append_nil _).symm
  called := fun _ member => by cases member
  joined := Nat.le_refl _
  counted := rfl
  answered := fun _ answer => by cases answer

theorem Tallied.mono (h : d.Tallied stops) {more : List Nat}
    (calls : ∀ session ∈ stops, session ∈ more) : d.Tallied more :=
  { h with called := fun session member => calls session (h.called session member) }

theorem Tallied.call (h : d.Tallied stops) (waits : session ∈ d.waiting) :
    (d.call session).Tallied (stops ++ [session]) where
  perm := by
    have moved : (d.waiting ++ d.stopping).Perm
        (d.waiting.erase session ++ (d.stopping ++ [session])) := by
      refine ((List.perm_cons_erase waits).append_right _).trans ?_
      rw [← List.append_assoc]
      exact (List.perm_append_singleton _ _).symm
    refine h.perm.trans ?_
    rw [Deactivation.call, ← List.append_assoc, ← List.append_assoc]
    exact moved.append_right _
  called := by
    intro other member
    rw [Deactivation.call, List.append_assoc] at member
    rcases List.mem_append.mp member with stopping | later
    · exact List.mem_append_left _ (h.called other (List.mem_append_left _ stopping))
    · rcases List.mem_append.mp later with same | ended
      · exact List.mem_append_right _ same
      · exact List.mem_append_left _ (h.called other (List.mem_append_right _ ended))
  joined := h.joined
  counted := h.counted
  answered := by
    intro count answer
    rw [(h.answered count answer).1] at waits
    cases waits

theorem Tallied.finish (h : d.Tallied stops) (session : Nat)
    (result : Option (Except Session.Error Unit)) : (d.finish session result).Tallied stops := by
  rw [Deactivation.finish]
  split
  · next stops =>
    have moved : (d.stopping ++ d.ended.map (·.1)).Perm
        (d.stopping.erase session ++ (d.ended ++ [(session, result)]).map (·.1)) := by
      rw [List.map_append, ← List.append_assoc]
      refine ((List.perm_cons_erase stops).append_right _).trans ?_
      exact (List.perm_append_singleton _ _).symm
    exact {
      perm := h.perm.trans (moved.append_left _)
      called := fun other member => h.called other (moved.mem_iff.mpr member)
      joined := by
        rw [List.length_append]
        exact Nat.le_add_right_of_le h.joined
      counted := h.counted.trans (by rw [List.take_append_of_le_length h.joined])
      answered := by
        intro count answer
        rw [(h.answered count answer).2.1] at stops
        cases stops }
  · exact h

theorem Tallied.join (h : d.Tallied stops) : d.join.Tallied stops := by
  rw [Deactivation.join]
  split
  · next ending found =>
    obtain ⟨inside, rfl⟩ := List.getElem?_eq_some_iff.mp found
    exact { h with
      joined := inside
      counted := by
        rw [List.take_succ_eq_append_getElem inside, List.countP_append, ← h.counted]
        simp only [List.countP_singleton]
        split <;> rfl }
  · next none =>
    have all : d.ended.length ≤ d.joined := List.getElem?_eq_none_iff.mp none
    split
    · next idle =>
      refine { h with answered := ?_ }
      rintro _ ⟨⟩
      rw [h.counted, List.take_of_length_le all]
      exact ⟨idle.1, idle.2, rfl⟩
    · exact h

@[simp] theorem waiting_finish (d : Deactivation) (session : Nat)
    (result : Option (Except Session.Error Unit)) :
    (d.finish session result).waiting = d.waiting := by
  unfold finish
  split <;> rfl

@[simp] theorem sessions_finish (d : Deactivation) (session : Nat)
    (result : Option (Except Session.Error Unit)) :
    (d.finish session result).sessions = d.sessions := by
  unfold finish
  split <;> rfl

@[simp] theorem waiting_join (d : Deactivation) : d.join.waiting = d.waiting := by
  unfold join
  split
  · rfl
  · split <;> rfl

@[simp] theorem sessions_join (d : Deactivation) : d.join.sessions = d.sessions := by
  unfold join
  split
  · rfl
  · split <;> rfl

end Deactivation

/-! ## The book of all of them -/

namespace Control

variable {c : Control}

/-- The sessions that wait for the tasks of deactivations. -/
def waiting (c : Control) : List Nat :=
  c.deactivations.flatMap (·.waiting)

/-- The session was given to a handler or a deactivation to stop. -/
def Handed (c : Control) (session : Nat) : Prop :=
  session ∈ c.stops ∨ ∃ d ∈ c.deactivations, session ∈ d.sessions

/-- Nobody stops a session that is stored or that somebody else stops. -/
structure Balanced (c : Control) : Prop where
  sound : c.state.Sound
  once : (c.stops ++ c.waiting).Nodup
  gone : ∀ session ∈ c.stops ++ c.waiting,
    session ∉ c.state.stored ∧ session < c.state.fleet.length
  tallied : ∀ d ∈ c.deactivations, d.Tallied c.stops

theorem Balanced.not_mem_stored_of_handed (h : c.Balanced) {session : Nat}
    (handed : c.Handed session) : session ∉ c.state.stored := by
  suffices session ∈ c.stops ++ c.waiting from (h.gone session this).1
  rcases handed with called | ⟨d, running, taken⟩
  · exact List.mem_append_left _ called
  · have tallied := h.tallied d running
    rcases List.mem_append.mp (tallied.perm.mem_iff.mp taken) with waits | begun
    · exact List.mem_append_right _ (List.mem_flatMap.mpr ⟨d, running, waits⟩)
    · exact List.mem_append_left _ (tallied.called session begun)

theorem balanced_initial (home : FilePath) (workspace : Workspace) :
    Balanced { state := { home, workspace } } where
  sound := State.sound_initial home workspace
  once := .nil
  gone := fun _ member => by cases member
  tallied := fun _ member => by cases member

/-- The calls of handlers are of sessions that were stored until then. -/
theorem Balanced.event (h : c.Balanced) {e : State.Event} (running : e ≠ .deactivated) :
    Balanced { c with state := c.state.step e, stops := c.stops ++ c.state.stopCalls e } := by
  have calls := h.sound.perm_stopCalls running
  have taken : ∀ session ∈ c.state.stopCalls e,
      session ∈ c.state.stored ∧ session ∉ (c.state.step e).stored := fun session member =>
    State.mem_stored_of_mem_takenBy (calls.mem_iff.mpr member)
  have longer := State.length_fleet_step c.state e
  have order : (c.state.stopCalls e ++ (c.stops ++ c.waiting)).Perm
      (c.stops ++ c.state.stopCalls e ++ c.waiting) := by
    rw [List.append_assoc]
    exact List.perm_append_comm_assoc ..
  refine ⟨(h.sound.step e).sound, order.nodup_iff.mp ?_, ?_, ?_⟩
  · refine List.nodup_append.mpr ⟨calls.nodup_iff.mp (h.sound.nodup_takenBy e), h.once, ?_⟩
    rintro called calledNow _ before rfl
    exact (h.gone called before).1 (taken called calledNow).1
  · intro session member
    rcases List.mem_append.mp (order.mem_iff.mpr member) with calledNow | before
    · obtain ⟨stored, left⟩ := taken session calledNow
      exact ⟨left, Nat.lt_of_lt_of_le (h.sound.lt_of_mem_stored stored) longer⟩
    · obtain ⟨absent, known⟩ := h.gone session before
      refine ⟨fun stored => ?_, Nat.lt_of_lt_of_le known longer⟩
      rcases h.sound.mem_stored_step stored with stays | rfl
      · exact absent stays
      · exact Nat.lt_irrefl _ known
  · exact fun d running => (h.tallied d running).mono fun _ => List.mem_append_left _

/-- A deactivation gives what is stored to its tasks. -/
theorem Balanced.deactivated (h : c.Balanced) : (c.move (.event .deactivated)).Balanced := by
  have waits : (c.move (.event .deactivated)).waiting = c.waiting ++ c.state.stored := by
    simp [move, waiting, Deactivation.ofSessions, Registry.drain, State.stored]
  have apart : ∀ session ∈ c.stops ++ c.waiting, ∀ stored ∈ c.state.stored, session ≠ stored := by
    rintro session before _ stored rfl
    exact (h.gone session before).1 stored
  refine ⟨?_, ?_, ?_, ?_⟩
  · exact h.sound.withRegistry Registry.sorted_empty fun _ _ stored => by cases stored
  · rw [waits, ← List.append_assoc]
    exact List.nodup_append.mpr ⟨h.once, h.sound.nodup_stored, apart⟩
  · intro session member
    refine ⟨List.not_mem_nil, ?_⟩
    rw [waits, ← List.append_assoc] at member
    rcases List.mem_append.mp member with before | stored
    · exact (h.gone session before).2
    · exact h.sound.lt_of_mem_stored stored
  · intro d member
    rcases List.mem_append.mp member with before | new
    · exact h.tallied d before
    · rw [List.mem_singleton.mp new]
      exact Deactivation.tallied_ofSessions _ _

/-- A deactivation of a list in which one was changed. -/
theorem exists_of_mem_modify {ds : List Deactivation} {index : Nat}
    {f : Deactivation → Deactivation} {d : Deactivation} (member : d ∈ ds.modify index f) :
    ∃ before ∈ ds, d = before ∨ (ds[index]? = some before ∧ d = f before) := by
  obtain ⟨position, found⟩ := List.getElem?_of_mem member
  rw [List.getElem?_modify] at found
  obtain ⟨before, there, rfl⟩ := Option.map_eq_some_iff.mp found
  refine ⟨before, List.mem_of_getElem? there, ?_⟩
  split
  · next here =>
    subst here
    exact .inr ⟨there, rfl⟩
  · exact .inl rfl

/-- A task that begins waits no more. -/
theorem perm_waiting_call {ds : List Deactivation} {index : Nat} {d : Deactivation} {session : Nat}
    (here : ds[index]? = some d) (waits : session ∈ d.waiting) :
    (ds.flatMap (·.waiting)).Perm
      (session :: (ds.modify index (·.call session)).flatMap (·.waiting)) := by
  induction ds generalizing index with
  | nil => cases here
  | cons first rest ih =>
      cases index with
      | zero =>
          obtain rfl := Option.some.inj here
          exact (List.perm_cons_erase waits).append_right _
      | succ index => exact ((ih here).append_left _).trans List.perm_middle

theorem Balanced.stopCalled (h : c.Balanced) {index : Nat} {d : Deactivation} {session : Nat}
    (here : c.deactivations[index]? = some d) (waits : session ∈ d.waiting) :
    Balanced
      { state := c.state.modify session State.beginStop
        deactivations := c.deactivations.modify index (·.call session)
        stops := c.stops ++ [session] } := by
  have order : (c.stops ++ c.waiting).Perm (c.stops ++ [session] ++
      (c.deactivations.modify index (·.call session)).flatMap (·.waiting)) := by
    rw [List.append_assoc]
    exact (perm_waiting_call here waits).append_left _
  refine ⟨h.sound.modify State.ends_beginStop session, order.nodup_iff.mp h.once, ?_, ?_⟩
  · intro other member
    rw [State.length_fleet_modify]
    exact h.gone other (order.mem_iff.mpr member)
  · intro other member
    obtain ⟨before, known, rfl | ⟨there, rfl⟩⟩ := exists_of_mem_modify member
    · exact (h.tallied _ known).mono fun _ => List.mem_append_left _
    · obtain rfl := Option.some.inj (here.symm.trans there)
      exact (h.tallied d known).call waits

/-- Looking at how tasks end changes one deactivation, and nothing is called. -/
theorem Balanced.modify (h : c.Balanced) (index : Nat) {f : Deactivation → Deactivation}
    (waits : ∀ d, (f d).waiting = d.waiting)
    (keeps : ∀ d, d.Tallied c.stops → (f d).Tallied c.stops) :
    Balanced { c with deactivations := c.deactivations.modify index f } := by
  have same : (c.deactivations.modify index f).flatMap (·.waiting) = c.waiting := by
    rw [waiting]
    generalize c.deactivations = ds
    induction ds generalizing index with
    | nil => cases index <;> rfl
    | cons d rest ih =>
        cases index with
        | zero => exact congrArg (· ++ _) (waits d)
        | succ index => exact congrArg (d.waiting ++ ·) (ih index)
  refine { h with once := ?_, gone := ?_, tallied := ?_ }
  · rw [waiting, same]
    exact h.once
  · intro session member
    rw [waiting, same] at member
    exact h.gone session member
  · intro d member
    obtain ⟨before, known, rfl | ⟨-, rfl⟩⟩ := exists_of_mem_modify member
    · exact h.tallied _ known
    · exact keeps before (h.tallied before known)

theorem Balanced.move (h : c.Balanced) (m : Move) : (c.move m).Balanced := by
  cases m with
  | event e =>
      by_cases deactivates : e = .deactivated
      · rw [deactivates]
        exact h.deactivated
      · have moved : c.move (.event e) =
            { c with state := c.state.step e, stops := c.stops ++ c.state.stopCalls e } := by
          cases e with
          | deactivated => exact absurd rfl deactivates
          | _ => rfl
        rw [moved]
        exact h.event deactivates
  | stopCalled index session =>
      rw [Control.move]
      split
      · exact h
      · next d here =>
        split
        · next waits => exact h.stopCalled here waits
        · exact h
  | stopEnded index session result =>
      exact h.modify index (fun d => d.waiting_finish session result)
        fun d tallied => tallied.finish session result
  | joined index =>
      exact h.modify index (fun d => d.waiting_join) fun d tallied => tallied.join

theorem Balanced.run (h : c.Balanced) (moves : List Move) : (c.run moves).Balanced := by
  induction moves generalizing c with
  | nil => exact h
  | cons m rest ih => exact ih (h.move m)

/-! ## Nothing that was handed over is taken back -/

theorem stops_move (c : Control) (m : Move) : c.stops <+: (c.move m).stops := by
  cases m with
  | event e =>
      cases e with
      | deactivated => exact List.prefix_refl _
      | job | startEnded | stopEnded | abandoned | crashed | workspaceChanged =>
          exact List.prefix_append _ _
  | stopCalled index session =>
      rw [move]
      split
      · exact List.prefix_refl _
      · split
        · exact List.prefix_append _ _
        · exact List.prefix_refl _
  | stopEnded | joined => exact List.prefix_refl _

theorem map_sessions_modify {f : Deactivation → Deactivation}
    (same : ∀ d, (f d).sessions = d.sessions) (ds : List Deactivation) (index : Nat) :
    (ds.modify index f).map (·.sessions) = ds.map (·.sessions) := by
  induction ds generalizing index with
  | nil => cases index <;> rfl
  | cons d rest ih =>
      cases index with
      | zero => exact congrArg (· :: _) (same d)
      | succ index => exact congrArg (d.sessions :: ·) (ih index)

theorem sessions_move (c : Control) (m : Move) :
    c.deactivations.map (·.sessions) <+: (c.move m).deactivations.map (·.sessions) := by
  cases m with
  | event e =>
      cases e with
      | deactivated =>
          rw [move]
          dsimp only
          rw [List.map_append]
          exact List.prefix_append _ _
      | job | startEnded | stopEnded | abandoned | crashed | workspaceChanged =>
          exact List.prefix_refl _
  | stopCalled index session =>
      rw [move]
      split
      · exact List.prefix_refl _
      · split
        · have same := map_sessions_modify (f := (·.call session)) (fun _ => rfl)
            c.deactivations index
          exact ⟨[], (List.append_nil _).trans same.symm⟩
        · exact List.prefix_refl _
  | stopEnded index session result =>
      have same := map_sessions_modify (fun d => d.sessions_finish session result)
        c.deactivations index
      exact ⟨[], (List.append_nil _).trans same.symm⟩
  | joined index =>
      have same := map_sessions_modify (fun d => d.sessions_join) c.deactivations index
      exact ⟨[], (List.append_nil _).trans same.symm⟩

theorem stops_run (c : Control) (moves : List Move) : c.stops <+: (c.run moves).stops := by
  induction moves generalizing c with
  | nil => exact List.prefix_refl _
  | cons m rest ih => exact (c.stops_move m).trans (ih _)

theorem sessions_run (c : Control) (moves : List Move) :
    c.deactivations.map (·.sessions) <+: (c.run moves).deactivations.map (·.sessions) := by
  induction moves generalizing c with
  | nil => exact List.prefix_refl _
  | cons m rest ih => exact (c.sessions_move m).trans (ih _)

theorem Handed.run {session : Nat} (handed : c.Handed session) (moves : List Move) :
    (c.run moves).Handed session := by
  rcases handed with called | ⟨d, running, taken⟩
  · exact .inl ((c.stops_run moves).mem called)
  · have there := (c.sessions_run moves).mem (List.mem_map_of_mem (f := (·.sessions)) running)
    obtain ⟨later, running', same⟩ := List.mem_map.mp there
    exact .inr ⟨later, running', same ▸ taken⟩

/-- A deactivation keeps its place, and the sessions that it took out. -/
theorem exists_deactivation (c : Control) (moves : List Move) :
    ∃ d, (c.run (.event .deactivated :: moves)).deactivations[c.deactivations.length]? = some d ∧
      d.sessions = c.state.stored := by
  have kept := (c.move (.event .deactivated)).sessions_run moves
  have first : ((c.move (.event .deactivated)).deactivations.map (·.sessions))[
      c.deactivations.length]? = some c.state.stored := by
    simp [move, Deactivation.ofSessions, Registry.drain, State.stored]
  obtain ⟨new, joined⟩ := kept
  obtain ⟨inside, -⟩ := List.getElem?_eq_some_iff.mp first
  have later : ((c.run (.event .deactivated :: moves)).deactivations.map (·.sessions))[
      c.deactivations.length]? = some c.state.stored := by
    rw [run, List.foldl_cons, ← run, ← joined, List.getElem?_append_left inside]
    exact first
  rw [List.getElem?_map] at later
  exact Option.map_eq_some_iff.mp later

/-- From a start without sessions, any number of handlers and deactivations may interleave, and
their stops end well or badly. No stop is called twice. A session whose stop was called or that
a deactivation took out is not stored, then or ever after. A deactivation that answers has called
the stop of every session that was stored when it began; each of these stops has ended, and it
answers how many of them succeeded. -/
theorem stops_at_most_once (home : FilePath) (workspace : Workspace) (moves : List Move) :
    let c := run { state := { home, workspace } } moves
    c.stops.Nodup ∧
      (∀ session, c.Handed session → ∀ later, session ∉ (c.run later).state.stored) ∧
      ∀ before after, moves = before ++ .event .deactivated :: after →
        let drained := run { state := { home, workspace } } before
        ∃ d, c.deactivations[drained.deactivations.length]? = some d ∧
          ∀ count, d.answer = some count →
            (∀ session ∈ drained.state.stored, session ∈ c.stops) ∧
            (d.ended.map (·.1)).Perm drained.state.stored ∧
            count = d.ended.countP Deactivation.succeeded := by
  intro c
  have balanced : c.Balanced := (balanced_initial home workspace).run moves
  refine ⟨(List.nodup_append.mp balanced.once).1, ?_, ?_⟩
  · intro session handed later
    exact (balanced.run later).not_mem_stored_of_handed (handed.run later)
  · intro before after split drained
    have goesOn : c = drained.run (.event .deactivated :: after) := by
      rw [← run_append, ← split]
    obtain ⟨d, here, taken⟩ := drained.exists_deactivation after
    rw [← goesOn] at here
    refine ⟨d, here, fun count answer => ?_⟩
    have tallied := balanced.tallied d (List.mem_of_getElem? here)
    obtain ⟨begun, ended, counts⟩ := tallied.answered count answer
    have all : d.sessions.Perm (d.ended.map (·.1)) := by
      have perm := tallied.perm
      rwa [begun, ended] at perm
    rw [← taken]
    refine ⟨fun session member => ?_, all.symm, counts⟩
    exact tallied.called session (List.mem_append_right _ (all.mem_iff.mp member))

/-- A buffer's session is taken out by a deactivation. Before its task begins the buffer is opened
anew, with a second session, and closed: the stop of the second session is called first. The
deactivation answers that none was stopped, since the stop of the first one fails. -/
theorem deactivation_with_failing_stop :
    let before : List Move := [.event (.job (.openDocument (State.buffer "Untitled-1"))),
      .event (.startEnded 0 (.ok ()))]
    let after : List Move := [.event (.job (.openDocument (State.buffer "Untitled-1"))),
      .event (.startEnded 1 (.ok ())), .event (.job (.closeDocument (State.buffer "Untitled-1"))),
      .stopCalled 0 0, .stopEnded 0 0 (some (.error (.stopped "untitled"))), .joined 0, .joined 0]
    let c := run { state := { home := ⟨[]⟩, workspace := {} } }
      (before ++ .event .deactivated :: after)
    c.stops = [1, 0] ∧ (c.deactivations[0]?).bind (·.answer) = some 0 ∧
      c.stops.Nodup ∧ (∀ later, 0 ∉ (c.run later).state.stored) ∧
      ∃ d, c.deactivations[0]? = some d ∧ ∀ count, d.answer = some count →
        count = d.ended.countP Deactivation.succeeded := by
  intro before after c
  have calls : c.stops = [1, 0] := by decide +kernel
  have answers : (c.deactivations[0]?).bind (·.answer) = some 0 := by decide +kernel
  obtain ⟨once, never, drains⟩ :=
    stops_at_most_once ⟨[]⟩ {} (before ++ .event .deactivated :: after)
  obtain ⟨d, here, answered⟩ := drains before after rfl
  refine ⟨calls, answers, once, never 0 (.inl ?_), d, here, fun count answer => ?_⟩
  · rw [show (run _ _).stops = [1, 0] from calls]
    exact List.mem_cons_of_mem _ List.mem_cons_self
  · exact (answered count answer).2.2

end Control

end RLanguageHost.Lifecycle
