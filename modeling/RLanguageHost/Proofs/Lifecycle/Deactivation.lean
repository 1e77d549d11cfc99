import RLanguageHost.Lifecycle.Control
import RLanguageHost.Lifecycle.Rehearsal
import RLanguageHost.Proofs.Lifecycle.Custody
import RLanguageHost.Proofs.Lifecycle.Runs

/-!
# Deactivations and their tasks

Handlers change sessions by the stops that they call, and in no other way (`fleet_step_of_handler`).
The event in which all stops begin at once is the run in which the tasks of a deactivation begin
theirs one after the other (`run_inTurn`), and `run_rehearsal` shows the same of a deactivation with
stand-ins and of its answer.
-/

namespace RLanguageHost.Lifecycle

/-! ## What the calls of handlers are -/

namespace State

variable {s : State}

/-- A part of a handler begins one stop at most, that of the session that it waits for. -/
theorem fleet_record (handler : Nat) (progress : Progress) (registry : Registry) :
    (s.record handler progress registry).2.fleet =
      progress.session?.toList.foldl (fun fleet session => fleet.modify session beginStop)
        s.fleet := by
  cases progress with
  | finished => rfl
  | suspended waiting => cases waiting <;> rfl

/-- What handlers do to sessions is to call stops: a part of a handler changes the sessions by the
stops that it is said to call, and in no other way. -/
theorem fleet_step_of_handler (s : State) :
    (∀ job, (s.step (.job job)).fleet =
      (s.stopCalls (.job job)).foldl (fun fleet session => fleet.modify session beginStop)
        s.fleet) ∧
    ∀ handler result, (s.step (.stopEnded handler result)).fleet =
      (s.stopCalls (.stopEnded handler result)).foldl
        (fun fleet session => fleet.modify session beginStop) s.fleet := by
  constructor
  · intro job
    cases job <;> exact fleet_record _ _ _
  · intro handler result
    rw [step, finishStop, stopCalls]
    cases s.waiting? handler with
    | none => rfl
    | some waiting =>
        cases waiting with
        | start | stop => rfl
        | removal => exact fleet_record _ _ _

theorem Sound.perm_taken_record (h : s.Sound) {keys : List ScopeKey} {progress : Progress}
    {registry : Registry} (clearing : Clearing s.registry keys (progress, registry))
    (handler : Nat) :
    (s.stored.filter (· ∉ (s.record handler progress registry).2.stored)).Perm
      progress.session?.toList := by
  have left : (s.record handler progress registry).2.stored = registry.sessions.map (·.2) :=
    congrArg (fun r => r.sessions.map (·.2)) (registry_record handler progress registry)
  rw [left]
  exact h.perm_of_clearing clearing

/-- Handlers call the stops of the sessions that they take out of the registry. -/
theorem Sound.perm_stopCalls (h : s.Sound) {e : Event} (running : e ≠ .deactivated) :
    (s.takenBy e).Perm (s.stopCalls e) := by
  cases e with
  | job job =>
      cases job with
      | openDocument d =>
          rw [h.takenBy_eq_nil fun key => effect_ne_cleared_of_isOpening rfl, stopCalls,
            session?_openDocument]
          exact .nil
      | closeDocument d =>
          exact h.next.perm_taken_record (clearing_closeDocument s.view s.registry d) _
      | removeFolders folders =>
          exact h.next.perm_taken_record (clearing_removeFolders s.registry [] folders) _
  | stopEnded handler result =>
      rw [stopCalls]
      cases waits : s.waiting? handler with
      | none =>
          rw [h.takenBy_eq_nil fun key => by simp [effect, waits, reached]]
      | some waiting =>
          cases waiting with
          | start | stop =>
              rw [h.takenBy_eq_nil fun key => by simp [effect, waits, Waiting.remaining, reached]]
          | removal key session rest stopped =>
              have taken := (h.dropHandler handler).perm_taken_record
                (clearing_removeFolders s.registry (stopped ++ [key]) rest) handler
              have stepsOn : s.step (.stopEnded handler result) =
                  ((s.dropHandler handler).record handler
                    (removeFolders s.registry (stopped ++ [key]) rest).1
                    (removeFolders s.registry (stopped ++ [key]) rest).2).2 := by
                rw [State.step, finishStop, waits]
                rfl
              rw [← stepsOn] at taken
              exact taken
  | startEnded | abandoned | crashed | workspaceChanged =>
      rw [h.takenBy_eq_nil fun key => effect_ne_cleared_of_isOpening rfl]
      exact .nil
  | deactivated => exact absurd rfl running

end State

/-! ## A deactivation whose tasks run one after the other -/

namespace Control

variable {c : Control} {ds : List Deactivation} {d : Deactivation}

theorem run_append (c : Control) (first second : List Move) :
    c.run (first ++ second) = (c.run first).run second :=
  List.foldl_append

theorem modify_last (ds : List Deactivation) (d : Deactivation)
    (f : Deactivation → Deactivation) : (ds ++ [d]).modify ds.length f = ds ++ [f d] := by
  induction ds with
  | nil => rfl
  | cons first rest ih => exact congrArg (first :: ·) ih

/-- The tasks of the last deactivation begin in the order of their sessions. -/
theorem run_stopCalled (entries : List (ScopeKey × Nat)) (last : c.deactivations = ds ++ [d])
    (all : d.waiting = entries.map (·.2)) :
    c.run (entries.map fun entry => .stopCalled ds.length entry.2) =
      { state := entries.foldl (fun s entry => s.modify entry.2 State.beginStop) c.state
        deactivations :=
          ds ++ [{ d with waiting := [], stopping := d.stopping ++ entries.map (·.2) }]
        stops := c.stops ++ entries.map (·.2) } := by
  induction entries generalizing c d with
  | nil =>
      obtain ⟨state, deactivations, stops⟩ := c
      obtain ⟨sessions, waiting⟩ := d
      cases last
      cases all
      simp [run]
  | cons entry rest ih =>
      have called : c.move (.stopCalled ds.length entry.2) =
          { state := c.state.modify entry.2 State.beginStop
            deactivations := ds ++ [d.call entry.2]
            stops := c.stops ++ [entry.2] } := by
        simp [move, last, all, modify_last]
      have left : (d.call entry.2).waiting = rest.map (·.2) := by
        simp [Deactivation.call, all]
      rw [run, List.map_cons, List.foldl_cons, called]
      refine (ih rfl left).trans ?_
      simp [Deactivation.call, List.append_assoc]

/-- The tasks of the last deactivation end in the order of their sessions. -/
theorem run_stopEnded (result : ScopeKey → Option (Except Session.Error Unit))
    (entries : List (ScopeKey × Nat)) (last : c.deactivations = ds ++ [d])
    (all : d.stopping = entries.map (·.2)) :
    c.run (entries.map fun entry => .stopEnded ds.length entry.2 (result entry.1)) =
      { c with
        deactivations := ds ++ [{ d with
          stopping := []
          ended := d.ended ++ entries.map fun entry => (entry.2, result entry.1) }] } := by
  induction entries generalizing c d with
  | nil =>
      obtain ⟨state, deactivations, stops⟩ := c
      obtain ⟨sessions, waiting, stopping⟩ := d
      cases last
      cases all
      simp [run]
  | cons entry rest ih =>
      have ended : c.move (.stopEnded ds.length entry.2 (result entry.1)) =
          { c with deactivations := ds ++ [d.finish entry.2 (result entry.1)] } := by
        rw [move, last, modify_last]
      have left : (d.finish entry.2 (result entry.1)).stopping = rest.map (·.2) := by
        simp [Deactivation.finish, all]
      rw [run, List.map_cons, List.foldl_cons, ended]
      refine (ih rfl left).trans ?_
      simp [Deactivation.finish, all, List.append_assoc]

/-- The last deactivation looks at the tasks that are left. -/
theorem run_joined (left : Nat) (last : c.deactivations = ds ++ [d])
    (all : d.joined + left = d.ended.length) :
    c.run (List.replicate left (.joined ds.length)) =
      { c with
        deactivations := ds ++ [{ d with
          joined := d.ended.length
          stopped := d.stopped + (d.ended.drop d.joined).countP Deactivation.succeeded }] } := by
  induction left generalizing c d with
  | zero =>
      obtain ⟨state, deactivations, stops⟩ := c
      obtain ⟨sessions, waiting, stopping, ended, joined⟩ := d
      obtain rfl : joined = ended.length := all
      cases last
      simp [run]
  | succ left ih =>
      have inside : d.joined < d.ended.length := by omega
      have looked : c.move (.joined ds.length) = { c with deactivations := ds ++ [d.join] } := by
        rw [move, last, modify_last]
      have joins : d.join = { d with
          joined := d.joined + 1
          stopped := if Deactivation.succeeded d.ended[d.joined] then d.stopped + 1
            else d.stopped } := by
        rw [Deactivation.join, List.getElem?_eq_getElem inside]
      have shorter : d.join.joined + left = d.join.ended.length := by
        rw [joins]
        dsimp only
        omega
      rw [run, List.replicate_succ, List.foldl_cons, looked]
      refine (ih rfl shorter).trans ?_
      rw [joins, List.drop_eq_getElem_cons inside, List.countP_cons]
      split <;> simp [Nat.add_assoc, Nat.add_comm]

/-- A deactivation whose tasks all begin, then all end, and are then looked at, each time in the
order of the sessions. -/
def inTurn (c : Control) (result : ScopeKey → Option (Except Session.Error Unit)) : List Move :=
  let entries := c.state.registry.sessions
  let index := c.deactivations.length
  [.event .deactivated] ++ (entries.map fun entry => .stopCalled index entry.2) ++
    (entries.map fun entry => .stopEnded index entry.2 (result entry.1)) ++
    List.replicate entries.length (.joined index) ++ [.joined index]

/-- Such a deactivation leaves the state that the event of that name leaves. -/
theorem run_inTurn (c : Control) (result : ScopeKey → Option (Except Session.Error Unit)) :
    let ended := c.state.registry.sessions.map fun entry => (entry.2, result entry.1)
    c.run (c.inTurn result) = {
      state := c.state.step .deactivated
      deactivations := c.deactivations ++ [{
        sessions := c.state.stored
        waiting := []
        ended
        joined := ended.length
        stopped := ended.countP Deactivation.succeeded
        answer := some (ended.countP Deactivation.succeeded) }]
      stops := c.stops ++ c.state.stored } := by
  intro ended
  have begun : c.run [.event .deactivated] =
      { c with
        state := { c.state with registry := {} }
        deactivations := c.deactivations ++ [.ofSessions c.state.stored] } := rfl
  rw [inTurn, run_append, run_append, run_append, run_append, begun,
    run_stopCalled c.state.registry.sessions rfl rfl,
    run_stopEnded result c.state.registry.sessions rfl rfl,
    run_joined c.state.registry.sessions.length rfl (by simp [Deactivation.ofSessions])]
  rw [run, List.foldl_cons, List.foldl_nil, move, modify_last]
  simp [ended, Deactivation.join, Deactivation.ofSessions, State.step, State.drain, Registry.drain,
    State.stored]

/-- The deactivation with stand-ins is such a one, with their results: it leaves the same state and
gives the same answer, and the stop of each stored session is called once. -/
theorem run_rehearsal (r : Rehearsal) (c : Control) :
    let begun := { c with state := r.state }
    let ended := begun.run (begun.inTurn fun key => some (r.stopResult key))
    ended.state = r.deactivate.2.state ∧
      ended.deactivations.getLast?.bind (·.answer) = some r.deactivate.1 ∧
      ended.stops = c.stops ++ r.state.stored := by
  intro begun ended
  have final := begun.run_inTurn fun key => some (r.stopResult key)
  rw [show ended = _ from final]
  refine ⟨rfl, ?_, rfl⟩
  rw [List.getLast?_concat, Option.bind_some, List.countP_map]
  unfold Rehearsal.stopResult Rehearsal.deactivate
  cases r.failStop <;> simp [begun, Function.comp_def, Deactivation.succeeded, Except.isOk,
    Except.toBool, State.drain, Registry.drain]

end Control

end RLanguageHost.Lifecycle
