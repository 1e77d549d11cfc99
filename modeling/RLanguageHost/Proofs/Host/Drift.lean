import RLanguageHost.Host.Service
import RLanguageHost.Lifecycle.Rehearsal
import RLanguageHost.Proofs.Host.Course

/-!
# Hosts that run

A host runs with servers on a machine, or with stand-ins that start and stop at once. Either way it
goes a course, so what holds of all courses holds of both.

Between the lines that a host reads, its state only drifts: starts and stops end and sessions die.
How a service comes to notice this on its machine does not matter.
-/

namespace RLanguageHost

namespace Lifecycle.State

/-- An event with which something ends by itself. -/
def Event.isEnd : Event → Bool
  | .startEnded .. | .stopEnded .. | .crashed _ => true
  | .job _ | .abandoned _ | .deactivated | .workspaceChanged _ => false

/-- Starts and stops end and sessions die, and nothing else happens. -/
def Drifts (s t : State) : Prop :=
  ∃ events : List Event, (∀ e ∈ events, e.isEnd) ∧ s.run events = t

variable {s t u : State}

theorem Drifts.refl (s : State) : s.Drifts s :=
  ⟨[], List.forall_mem_nil _, rfl⟩

theorem Drifts.trans (first : s.Drifts t) (second : t.Drifts u) : s.Drifts u := by
  obtain ⟨before, ends, rfl⟩ := first
  obtain ⟨after, later, rfl⟩ := second
  exact ⟨before ++ after, fun e member => (List.mem_append.mp member).elim (ends e) (later e),
    run_append s before after⟩

theorem drifts_step (s : State) {e : Event} (ends : e.isEnd) : s.Drifts (s.step e) :=
  ⟨[e], fun _ member => by rwa [List.mem_singleton.mp member], rfl⟩

theorem drifts_foldl {α : Type} {f : State → α → State}
    (drifts : ∀ (s : State) (a : α), s.Drifts (f s a)) (s : State) (l : List α) :
    s.Drifts (l.foldl f s) := by
  induction l generalizing s with
  | nil => exact .refl s
  | cons a rest ih => exact (drifts s a).trans (ih _)

end Lifecycle.State

open Lifecycle (State Rehearsal)

/-! ## Services -/

namespace Host.Service

variable {m : Machine} {s : Service} {after : Machine × Service}

theorem drifts_survey (s : Service) : s.state.Drifts s.survey.state := by
  refine State.drifts_foldl (fun state x => ?_) _ _
  split
  · exact .refl state
  · exact state.drifts_step (e := .crashed x.2) rfl

theorem drifts_refuse (s : Service) (handler : Nat) (e : Session.Error) :
    s.state.Drifts (s.refuse handler e).state :=
  s.state.drifts_step (e := .startEnded handler (.error e)) rfl

theorem drifts_enroll (s : Service) (u : Startup) (wire : Wire) :
    s.state.Drifts (s.enroll u wire).state := by
  refine (s.state.drifts_step (e := .startEnded u.handler (.ok ())) rfl).trans ?_
  exact drifts_survey { s with
    state := s.state.step (.startEnded u.handler (.ok ()))
    sessions := s.sessions ++ [Session.Server.ofLaunch u.scope u.launch wire u.exits] }

theorem drifts_start (m : Machine) (s : Service) (span : Option Log.Span) (handler : Nat)
    (scope : Scope) : s.state.Drifts (s.start m span handler scope).2.state := by
  rw [start]
  dsimp only
  split
  · exact drifts_refuse s handler _
  · split
    · exact drifts_enroll (s.note span _) _ _
    · exact .refl _

theorem state_onSession (m : Machine) (s : Service) (n : Nat)
    (f : Machine → Session.Server → Machine × Session.Server) :
    (s.onSession m n f).2.state = s.state := by
  rw [onSession]
  split <;> rfl

theorem drifts_attend (m : Machine) (s : Service) (span : Option Log.Span) (handler : Nat) :
    s.state.Drifts (s.attend m span handler).2.state := by
  rw [attend]
  split
  · exact drifts_start m s span handler _
  · rw [state_onSession]
    exact .refl _
  · rw [state_onSession]
    exact .refl _
  · exact .refl _

theorem drifts_startupStep {u : Startup} (h : s.startupStep m u = some after) :
    s.state.Drifts after.2.state := by
  rw [startupStep] at h
  split at h
  · rw [← Option.some.inj h]
    exact drifts_enroll { s with startups := s.startups.filter (·.handler ≠ u.handler) } u _
  · split at h
    · rw [← Option.some.inj h]
      exact drifts_refuse (s.giveUp m u).2 u.handler _
    · obtain ⟨_, _, h⟩ := Option.bind_eq_some_iff.mp h
      rw [← Option.some.inj h]
      exact .refl _

theorem drifts_sessionStep {x : Session.Server × Nat} (h : s.sessionStep m x = some after) :
    s.state.Drifts after.2.state := by
  obtain ⟨⟨_, next, out⟩, _, h⟩ := Option.bind_eq_some_iff.mp h
  rw [← Option.some.inj h]
  exact drifts_survey ({ s with sessions := s.sessions.set x.2 next }.note none out)

theorem drifts_stopStep {h : Nat × Lifecycle.Waiting} (step : s.stopStep m h = some after) :
    s.state.Drifts after.2.state := by
  have ended (n : Nat) (stops : (if (s.sessions[n]?).any (·.isStopping) then none
      else some ({ s with state := (s.state.finishStop h.1 (.ok ())).2 }.attend m none h.1)) =
        some after) : s.state.Drifts after.2.state := by
    split at stops
    · cases stops
    · rw [← Option.some.inj stops]
      refine (s.state.drifts_step (e := .stopEnded h.1 (.ok ())) rfl).trans ?_
      exact drifts_attend m { s with state := s.state.step (.stopEnded h.1 (.ok ())) } none h.1
  rw [stopStep] at step
  split at step
  · cases step
  · exact ended _ step
  · exact ended _ step

theorem drifts_react (h : s.react m = some after) : s.state.Drifts after.2.state := by
  rw [react, Option.or_eq_some_iff, Option.or_eq_some_iff] at h
  rcases h with starts | ⟨_, goesOn | ⟨_, stops⟩⟩
  · obtain ⟨_, _, step⟩ := List.exists_of_findSome?_eq_some starts
    exact drifts_startupStep step
  · obtain ⟨_, _, step⟩ := List.exists_of_findSome?_eq_some goesOn
    exact drifts_sessionStep step
  · obtain ⟨_, _, step⟩ := List.exists_of_findSome?_eq_some stops
    exact drifts_stopStep step

/-- While a service waits, its state only drifts. -/
theorem drifts_await (happened : Service → Bool) (limit : Nat) (m : Machine) (s : Service) :
    s.state.Drifts (host.await happened limit m s).2.state :=
  Machine.Host.advance_induction (R := fun s s' => s.state.Drifts s'.state) (fun _ => .refl _)
    (fun _ _ _ _ _ reacts later => (drifts_react reacts).trans later) _ _ _ m s

end Host.Service

/-! ## Where a host can come to -/

namespace Host.Course

variable {c : Course} {phase : Phase} {s t : State} {input : List Bytes}
variable {jobs : List State.Job}

/-- The host can come to a place in its course. -/
def Leads (c : Course) (phase : Phase) (s : State) (input : List Bytes) (jobs : List State.Job) :
    Prop :=
  ∃ turns, (c.run turns).phase = phase ∧ (c.run turns).state = s ∧ (c.run turns).input = input ∧
    (c.run turns).jobs = jobs

theorem leads_start (idle : s.handlers = []) (input : Bytes) :
    (start s input).Leads .reading s (Lines.all input) (activation s.workspace) := by
  refine ⟨[], rfl, ?_, rfl, rfl⟩
  change { s with handlers := [] } = s
  rw [← idle]

theorem Leads.turn (leads : c.Leads phase s input jobs) {phase' : Phase} {s' : State}
    {input' : List Bytes} {jobs' : List State.Job} (t : Turn)
    (next : ∀ d : Course, d.phase = phase → d.state = s → d.input = input → d.jobs = jobs →
      (d.turn t).phase = phase' ∧ (d.turn t).state = s' ∧ (d.turn t).input = input' ∧
        (d.turn t).jobs = jobs') : c.Leads phase' s' input' jobs' := by
  obtain ⟨turns, isPhase, isState, isInput, isJobs⟩ := leads
  refine ⟨turns ++ [t], ?_⟩
  rw [run_append]
  exact next _ isPhase isState isInput isJobs

theorem Leads.drift (leads : c.Leads phase s input jobs) (drifts : s.Drifts t) :
    c.Leads phase t input jobs := by
  obtain ⟨events, ends, rfl⟩ := drifts
  induction events generalizing s with
  | nil => exact leads
  | cons e rest ih =>
      obtain ⟨now, later⟩ := List.forall_mem_cons.mp ends
      refine ih ?_ later
      cases e with
      | startEnded handler result =>
          refine leads.turn (.startEnded handler result) ?_
          rintro d rfl rfl rfl rfl
          exact ⟨rfl, rfl, rfl, rfl⟩
      | stopEnded handler result =>
          refine leads.turn (.stopEnded handler result) ?_
          rintro d rfl rfl rfl rfl
          exact ⟨rfl, rfl, rfl, rfl⟩
      | crashed session =>
          refine leads.turn (.crashed session) ?_
          rintro d rfl rfl rfl rfl
          exact ⟨rfl, rfl, rfl, rfl⟩
      | job | abandoned | deactivated | workspaceChanged => cases now

theorem Leads.begin {before after : List State.Job} {job : State.Job}
    (leads : c.Leads phase s input (before ++ job :: after)) :
    c.Leads phase (s.step (.job job)) input (before ++ after) := by
  refine leads.turn (.begun before.length) ?_
  rintro d rfl rfl rfl waits
  have found : d.jobs[before.length]? = some job := by
    rw [waits]
    simp
  rw [Course.turn, found]
  refine ⟨rfl, rfl, rfl, ?_⟩
  change d.jobs.eraseIdx before.length = _
  rw [waits, List.eraseIdx_append_of_length_le (Nat.le_refl _), Nat.sub_self,
    List.eraseIdx_cons_zero]

/-! ### Reading -/

section

variable {line : Bytes}

theorem Leads.ignored (leads : c.Leads .reading s (line :: input) jobs)
    (parsed : Host.readLine line = .ignored) : c.Leads .reading s input jobs := by
  refine leads.turn .read ?_
  rintro d reads rfl waits rfl
  rw [turn_read_cons reads waits, Course.readLine, parsed]
  exact ⟨reads, rfl, rfl, rfl⟩

theorem Leads.event (leads : c.Leads .reading s (line :: input) jobs) {event : HostEvent}
    (parsed : Host.readLine line = .event event) (goesOn : event ≠ .deactivate) :
    c.Leads .reading { s with workspace := (dispatch s.workspace event).1 } input
      (jobs ++ (dispatch s.workspace event).2.toList) := by
  refine leads.turn .read ?_
  rintro d reads rfl waits rfl
  rw [turn_read_of_event reads waits parsed goesOn]
  exact ⟨reads, rfl, rfl, rfl⟩

theorem Leads.unreadable (leads : c.Leads .reading s (line :: input) jobs) {failure : Failure}
    (parsed : Host.readLine line = .unreadable failure) :
    c.Leads (.leaving (.error (.input failure))) s input jobs := by
  refine leads.turn .read ?_
  rintro d reads rfl waits rfl
  rw [turn_read_cons reads waits, Course.readLine, parsed]
  exact ⟨rfl, rfl, rfl, rfl⟩

theorem Leads.deactivate (leads : c.Leads .reading s (line :: input) jobs)
    (parsed : Host.readLine line = .event .deactivate) :
    c.Leads (.leaving (.ok ())) s input jobs := by
  refine leads.turn .read ?_
  rintro d reads rfl waits rfl
  rw [turn_read_cons reads waits, Course.readLine, parsed]
  exact ⟨rfl, rfl, rfl, rfl⟩

theorem Leads.cancelled (leads : c.Leads .reading s input jobs) :
    c.Leads (.leaving (.ok ())) s input jobs := by
  refine leads.turn .cancelled ?_
  rintro d reads rfl rfl rfl
  rw [Course.turn, reading_of_phase reads]
  exact ⟨rfl, rfl, rfl, rfl⟩

theorem Leads.inputEnded (leads : c.Leads .reading s [] jobs) :
    c.Leads (.leaving (.ok ())) s [] jobs := by
  refine leads.turn .read ?_
  rintro d reads rfl none rfl
  rw [Course.turn, reading_of_phase reads, none]
  exact ⟨rfl, rfl, none, rfl⟩

end

/-! ### Returning -/

theorem Leads.returned {result : Except Error Unit}
    (leads : c.Leads (.leaving result) s input jobs) :
    ∃ input jobs, c.Leads (.returned result)
      (((s.handlers.map (·.1)).foldl State.abandonHandler s).step .deactivated) input jobs := by
  obtain ⟨turns, leaves, rfl, _, _⟩ := leads
  obtain ⟨more, -, returned, state⟩ := exists_returned_of_leaving leaves
  rw [← run_append] at returned state
  exact ⟨_, _, turns ++ more, returned, state, rfl, rfl⟩

/-- Where a host has returned, the course to this place has ended, with an empty registry. -/
theorem Leads.ended {before : State} {bytes : Bytes} {result : Except Error Unit}
    (leads : (start before bytes).Leads (.returned result) s input jobs) :
    (∃ turns, ((start before bytes).run turns).phase = .returned result ∧
      ((start before bytes).run turns).state = s) ∧ s.registry = {} := by
  obtain ⟨turns, phase, state, _⟩ := leads
  refine ⟨⟨turns, phase, state⟩, ?_⟩
  rw [← state]
  exact (over_of_returned phase).registry

end Host.Course

/-! ## Services -/

namespace Host.Service

open Course

theorem drifts_perform (m : Machine) (s : Service) (job : State.Job) :
    (s.state.step (.job job)).Drifts (s.perform m job).2.state :=
  drifts_attend m { s with state := s.state.step (.job job) } (spanOf? job) _

theorem drifts_settle (m : Machine) (s : Service) : s.state.Drifts (s.settle m).2.state :=
  drifts_await _ 0 m s

theorem leads_heed {c : Course} {s : Service} {line : Bytes} {rest : List Bytes}
    {jobs : List State.Job} (leads : c.Leads .reading s.state (line :: rest) jobs)
    {event : HostEvent} (parsed : readLine line = .event event) (goesOn : event ≠ .deactivate)
    (m : Machine) : c.Leads .reading (s.heed m event).2.state rest jobs := by
  have read := leads.event parsed goesOn
  rw [heed]
  generalize dispatch s.state.workspace event = dispatched at read ⊢
  obtain ⟨workspace, job⟩ := dispatched
  cases job with
  | none =>
      rw [Option.toList_none, List.append_nil] at read
      simp only [Option.map_none, Option.getD_none]
      exact read.drift (drifts_settle m { s with state := { s.state with workspace } })
  | some job =>
      have begun : c.Leads .reading _ rest (jobs ++ []) := Leads.begin read
      rw [List.append_nil] at begun
      simp only [Option.map_some, Option.getD_some]
      have performed := begun.drift
        (drifts_perform m { s with state := { s.state with workspace } } job)
      exact performed.drift (drifts_settle _ _)

theorem leads_readLines {c : Course} {m : Machine} {s : Service} {jobs : List State.Job}
    {lines : List Bytes} (leads : c.Leads .reading s.state lines jobs) :
    ∃ input, c.Leads (.leaving (s.readLines m lines).1) (s.readLines m lines).2.2.state input
      jobs := by
  induction lines generalizing m s with
  | nil => exact ⟨[], leads.inputEnded⟩
  | cons line rest ih =>
      rw [readLines]
      split
      · next parsed => exact ⟨rest, leads.unreadable parsed⟩
      · next parsed => exact ih (leads.ignored parsed)
      · next parsed => exact ⟨rest, leads.deactivate parsed⟩
      · next event goesOn parsed =>
        have goes := leads_heed leads parsed goesOn m
        generalize s.heed m event = heeded at goes ⊢
        exact ih goes

theorem state_abandon (m : Machine) (s : Service) (h : Nat × Lifecycle.Waiting) :
    (s.abandon m h).2.state = s.state.abandonHandler h.1 := by
  rw [abandon]
  dsimp only
  split
  · split <;> rfl
  · exact state_onSession ..
  · exact state_onSession ..

theorem state_foldl_abandon (handlers : List (Nat × Lifecycle.Waiting)) (x : Machine × Service) :
    (handlers.foldl (fun (m, s) h => s.abandon m h) x).2.state =
      (handlers.map (·.1)).foldl State.abandonHandler x.2.state := by
  induction handlers generalizing x with
  | nil => rfl
  | cons h rest ih => rw [List.foldl_cons, ih, state_abandon]; rfl

theorem state_foldl_onSession {α : Type} (f : α → Nat)
    (g : Machine → Session.Server → Machine × Session.Server) (l : List α)
    (x : Machine × Service) :
    (l.foldl (fun (m, s) a => s.onSession m (f a) g) x).2.state = x.2.state := by
  induction l generalizing x with
  | nil => rfl
  | cons a rest ih => rw [List.foldl_cons, ih, state_onSession]

/-- A service gives up all handlers and takes all sessions out. -/
theorem drifts_finish (m : Machine) (s : Service) :
    (((s.state.handlers.map (·.1)).foldl State.abandonHandler s.state).step .deactivated).Drifts
      (s.finish m).2.state := by
  have gave := state_foldl_abandon s.state.handlers (m, s)
  rw [finish]
  generalize s.state.handlers.foldl _ (m, s) = given at gave ⊢
  obtain ⟨m, t⟩ := given
  dsimp only at gave ⊢
  rw [← gave]
  have stopped := state_foldl_onSession (·.2) Session.Server.beginStop t.state.drain.1
    (m, { t with state := t.state.drain.2 })
  dsimp only at stopped
  generalize t.state.drain.1.foldl _ _ = left at stopped ⊢
  obtain ⟨m, u⟩ := left
  dsimp only at stopped ⊢
  rw [State.step, ← stopped]
  exact drifts_await ..

/-- What a service does is a course of its host, so it leaves an empty registry. -/
theorem run_is_course (m : Machine) {s : Service} (idle : s.state.handlers = []) (input : Bytes) :
    (∃ turns, ((Course.start s.state input).run turns).phase = .returned (s.run m input).1 ∧
      ((Course.start s.state input).run turns).state = (s.run m input).2.2.state) ∧
    (s.run m input).2.2.state.registry = {} := by
  obtain ⟨rest, leaves⟩ := leads_readLines (m := m) (leads_start idle input)
  obtain ⟨_, _, returns⟩ := leaves.returned
  rw [run]
  generalize s.readLines m (Lines.all input) = read at returns ⊢
  obtain ⟨result, m, t⟩ := read
  dsimp only at returns ⊢
  exact (returns.drift (drifts_finish m t)).ended

/-- A service reads a line that is no text, and returns with an error. -/
theorem run_is_course_unreadable :
    let s : Service :=
      { setup := { settings := {}, finder := fun _ => "R", around := { directory := ⟨[]⟩ } }
        state := { home := ⟨[]⟩, workspace := { documents := [State.buffer "a"] } } }
    (s.run {} [0xFF]).1 = .error (.input (.malformed 0 (some 1))) ∧
      ∃ turns, ((Course.start s.state [0xFF]).run turns).phase =
        .returned (.error (.input (.malformed 0 (some 1)))) := by
  intro s
  have lines : Lines.all [0xFF] = [[0xFF]] := by decide +kernel
  have unreadable : Host.readLine [0xFF] = .unreadable (.malformed 0 (some 1)) := by
    decide +kernel
  have result : (s.run {} [0xFF]).1 = .error (.input (.malformed 0 (some 1))) := by
    rw [run, lines, readLines, unreadable]
  obtain ⟨⟨turns, phase, _⟩, _⟩ := run_is_course {} (s := s) rfl [0xFF]
  exact ⟨result, turns, result ▸ phase⟩

end Host.Service

/-! ## Rehearsals -/

namespace Lifecycle.Rehearsal

open Host (Course)
open Host.Course (Leads)

theorem drifts_of_finishStop {s state : State} {handler : Nat} {result : Except Session.Error Unit}
    {outcome : Option Lifecycle.Outcome} (ended : s.finishStop handler result = (outcome, state)) :
    s.Drifts state := by
  have drifts := s.drifts_step (e := .stopEnded handler result) rfl
  rwa [State.step, ended] at drifts

theorem drifts_endStops (r : Rehearsal) (handler fuel : Nat) :
    r.state.Drifts (r.endStops handler fuel).2.state := by
  induction fuel generalizing r with
  | zero => exact .refl _
  | succ fuel ih =>
      rw [endStops]
      split
      · split
        · next ended => exact drifts_of_finishStop ended
        · next state ended => exact (drifts_of_finishStop ended).trans (ih { r with state })
      · split
        · next ended => exact drifts_of_finishStop ended
        · next state ended => exact (drifts_of_finishStop ended).trans (ih { r with state })
      · exact .refl _

theorem drifts_endStart (r : Rehearsal) (handler : Nat) :
    r.state.Drifts (r.endStart handler).2.state :=
  r.state.drifts_step (e := .startEnded handler r.startResult) rfl

theorem drifts_perform (r : Rehearsal) (job : State.Job) :
    (r.state.step (.job job)).Drifts (r.perform job).2.2.state := by
  rw [State.step, perform]
  split
  · next performed =>
    rw [performed]
    exact .refl _
  · next handler state performed =>
    rw [performed]
    dsimp only
    split
    · split
      · exact .refl _
      · exact drifts_endStart { r with state } handler
    · exact drifts_endStops { r with state } handler _

theorem leads_performAll {c : Course} {r : Rehearsal} {input : List Bytes}
    {jobs rest : List State.Job} (leads : c.Leads .reading r.state input (jobs ++ rest)) :
    c.Leads .reading (r.performAll jobs).state input rest := by
  induction jobs generalizing r with
  | nil => exact leads
  | cons job later ih =>
      have begun : c.Leads .reading (r.state.step (.job job)) input ([] ++ (later ++ rest)) :=
        Leads.begin leads
      exact ih (begun.drift (drifts_perform r job))

theorem leads_readLines {c : Course} {r : Rehearsal} {lines : List Bytes}
    {waiting : List State.Job} (leads : c.Leads .reading r.state lines waiting) :
    ∃ input jobs, c.Leads (.leaving (r.readLines waiting lines).1)
      (r.readLines waiting lines).2.state input jobs := by
  induction lines generalizing r waiting with
  | nil => exact ⟨[], waiting, leads.inputEnded⟩
  | cons line rest ih =>
      rw [readLines]
      split
      · next parsed => exact ⟨rest, waiting, leads.unreadable parsed⟩
      · next parsed => exact ih (leads.ignored parsed)
      · next parsed => exact ⟨rest, waiting, leads.deactivate parsed⟩
      · next event goesOn parsed =>
        have read := leads.event parsed goesOn
        rw [← List.take_append_drop turn (waiting ++ _)] at read
        exact ih (leads_performAll (r := { r with state := { r.state with workspace := _ } }) read)

theorem state_abandonAll (r : Rehearsal) :
    r.abandonAll.state = (r.state.handlers.map (·.1)).foldl State.abandonHandler r.state := by
  rw [abandonAll]
  generalize r.state.handlers.map (·.1) = handlers
  induction handlers generalizing r with
  | nil => rfl
  | cons handler rest ih => exact ih (r.abandon handler)

/-- What a rehearsal does is a course of its host, so it leaves an empty registry. -/
theorem rehearsal_is_course {r : Rehearsal} (idle : r.state.handlers = []) (input : Option Bytes) :
    (∃ turns,
      ((Course.start r.state (input.getD [])).run turns).phase = .returned (r.run input).1 ∧
        ((Course.start r.state (input.getD [])).run turns).state = (r.run input).2.state) ∧
    (r.run input).2.state.registry = {} := by
  have returns {result : Except Host.Error Unit} {read : Rehearsal} {input' : List Bytes}
      {jobs : List State.Job}
      (leaves :
        (Course.start r.state (input.getD [])).Leads (.leaving result) read.state input' jobs) :
      (∃ turns, ((Course.start r.state (input.getD [])).run turns).phase = .returned result ∧
        ((Course.start r.state (input.getD [])).run turns).state =
          read.abandonAll.deactivate.2.state) ∧
        read.abandonAll.deactivate.2.state.registry = {} := by
    obtain ⟨_, _, returned⟩ := leaves.returned
    rw [← state_abandonAll] at returned
    exact returned.ended
  have begins := Course.leads_start idle (input.getD [])
  cases input with
  | none => exact returns begins.cancelled
  | some input =>
      obtain ⟨_, _, leaves⟩ := leads_readLines begins
      exact returns leaves

/-- Stand-ins are told to serve a document and then the input ends. -/
theorem rehearsal_is_course_opened :
    let r : Rehearsal := { state := { home := ⟨[]⟩ } }
    let line := bytesOf "[\"didOpen\",\"untitled:a\",\"r\"]"
    (r.run (some line)).2.state.attempts = [.untitled] ∧
      (r.run (some line)).2.state.registry = {} ∧
      ∃ turns, ((Course.start r.state line).run turns).state = (r.run (some line)).2.state := by
  intro r line
  obtain ⟨⟨turns, _, state⟩, empty⟩ := rehearsal_is_course (r := r) rfl (some line)
  exact ⟨by decide +kernel, empty, turns, state⟩

end Lifecycle.Rehearsal

end RLanguageHost
