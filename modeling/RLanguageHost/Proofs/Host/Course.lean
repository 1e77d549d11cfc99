import RLanguageHost.Host.Course
import RLanguageHost.Proofs.Lifecycle.Custody
import RLanguageHost.Proofs.Lifecycle.Runs

/-!
# How a host ends

Once a host has taken all sessions out of the registry, nothing gets into it again (`Over`). It
comes there only by finding that no handler is left, so a host that has returned leaves an empty
registry, whatever the schedule. From wherever it reads, some turns lead to its return
(`exists_returned`).
-/

namespace RLanguageHost.Host

/-- A turn in which a host gives up what it has begun or waits for its own sessions. No start and no
stop that a handler waits for ends in it. -/
def Turn.closes : Turn → Bool
  | .givenUp _ | .dropped _ | .emptied | .sessionStopped _ | .returned => true
  | _ => false

namespace Course

variable {c : Course}

theorem run_cons (t : Turn) (turns : List Turn) : c.run (t :: turns) = (c.turn t).run turns := rfl

theorem reading_of_phase (phase : c.phase = .reading) (next : Course) : c.reading next = next := by
  rw [reading, phase]

theorem reading_of_ne (elsewhere : c.phase ≠ .reading) (next : Course) : c.reading next = c := by
  rw [reading]
  split
  · next phase => exact absurd phase elsewhere
  · rfl

theorem turn_read_cons (phase : c.phase = .reading) {line : Bytes} {rest : List Bytes}
    (input : c.input = line :: rest) : c.turn .read = { c with input := rest }.readLine line := by
  rw [turn, reading_of_phase phase, input]

theorem turn_read_of_event (phase : c.phase = .reading) {line : Bytes} {rest : List Bytes}
    (input : c.input = line :: rest) {event : HostEvent}
    (parsed : Host.readLine line = .event event) (goesOn : event ≠ .deactivate) :
    c.turn .read =
      { c.advance (.workspaceChanged (dispatch c.state.workspace event).1) with
        input := rest
        jobs := c.jobs ++ (dispatch c.state.workspace event).2.toList } := by
  rw [turn_read_cons phase input, readLine, parsed]
  cases event with
  | deactivate => exact absurd rfl goesOn
  | opened | closed | foldersChanged => rfl

section

variable {result : Except Error Unit} {sessions : List Nat}

theorem leaving_of_phase (phase : c.phase = .leaving result) (next : Except Error Unit → Course) :
    c.leaving next = next result := by
  rw [leaving, phase]

theorem leaving_of_ne (elsewhere : ∀ result, c.phase ≠ .leaving result)
    (next : Except Error Unit → Course) : c.leaving next = c := by
  rw [leaving]
  split
  · next phase => exact absurd phase (elsewhere _)
  · rfl

theorem stopping_of_phase (phase : c.phase = .stopping result sessions)
    (next : Except Error Unit → List Nat → Course) : c.stopping next = next result sessions := by
  rw [stopping, phase]

theorem stopping_of_ne (elsewhere : ∀ result sessions, c.phase ≠ .stopping result sessions)
    (next : Except Error Unit → List Nat → Course) : c.stopping next = c := by
  rw [stopping]
  split
  · next phase => exact absurd phase (elsewhere _ _)
  · rfl

end

/-! ## After the sessions were taken out -/

/-- What holds of a host that has taken all sessions out of the registry. -/
structure Over (c : Course) : Prop where
  isOver : c.phase.isOver
  registry : c.state.registry = {}
  handlers : c.state.handlers = []
  jobs : c.jobs = []

theorem Over.reading_eq (h : c.Over) (next : Course) : c.reading next = c := by
  refine reading_of_ne (fun phase => ?_) next
  cases phase ▸ h.isOver

theorem Over.leaving_eq (h : c.Over) (next : Except Error Unit → Course) : c.leaving next = c := by
  refine leaving_of_ne (fun result phase => ?_) next
  cases phase ▸ h.isOver

/-- Without handlers, nothing that is still on its way gets into the registry. -/
theorem Over.advance (h : c.Over) {e : Lifecycle.State.Event}
    (registry : (c.state.step e).registry = c.state.registry)
    (handlers : (c.state.step e).handlers = c.state.handlers) : (c.advance e).Over where
  isOver := h.isOver
  registry := registry.trans h.registry
  handlers := handlers.trans h.handlers
  jobs := h.jobs

theorem Over.turn (h : c.Over) (t : Turn) : (c.turn t).Over := by
  have nobody : ∀ handler, c.state.waiting? handler = none := by
    intro handler
    rw [Lifecycle.State.waiting?, h.handlers]
    rfl
  cases t with
  | read | inputFailed | cancelled =>
      rw [Course.turn, h.reading_eq]
      exact h
  | givenUp | dropped | emptied =>
      rw [Course.turn, h.leaving_eq]
      exact h
  | begun index =>
      rw [Course.turn, h.jobs, List.getElem?_nil]
      exact h
  | startEnded handler result =>
      have same : c.state.step (.startEnded handler result) = c.state :=
        Lifecycle.State.step_startEnded_of_not_waiting (by simp [nobody]) result
      exact h.advance (congrArg _ same) (congrArg _ same)
  | stopEnded handler result =>
      have same : c.state.step (.stopEnded handler result) = c.state := by
        rw [Lifecycle.State.step, Lifecycle.State.finishStop, nobody]
      exact h.advance (congrArg _ same) (congrArg _ same)
  | crashed session => exact h.advance rfl rfl
  | sessionStopped session =>
      rw [Course.turn, stopping]
      split
      · split
        · exact ⟨rfl, h.registry, h.handlers, h.jobs⟩
        · exact h
      · exact h
  | returned =>
      rw [Course.turn, stopping]
      split
      · split
        · exact ⟨rfl, h.registry, h.handlers, h.jobs⟩
        · exact h
      · exact h

theorem isOver_readLine (line : Bytes) : (c.readLine line).phase.isOver → c.phase.isOver := by
  rw [readLine]
  split
  · exact nofun
  · exact id
  · exact nofun
  · exact id

theorem isOver_reading {next : Course} (kept : next.phase.isOver → c.phase.isOver) :
    (c.reading next).phase.isOver → c.phase.isOver := by
  rw [reading]
  split
  · exact kept
  · exact id

theorem isOver_leaving {next : Except Error Unit → Course}
    (kept : ∀ result, (next result).phase.isOver → c.phase.isOver) :
    (c.leaving next).phase.isOver → c.phase.isOver := by
  rw [leaving]
  split
  · exact kept _
  · exact id

theorem isOver_stopping {next : Except Error Unit → List Nat → Course} :
    (c.stopping next).phase.isOver → c.phase.isOver := by
  rw [stopping]
  split
  · next phase =>
    rw [phase]
    exact fun _ => rfl
  · exact id

/-- Only by finding that no handler is left does a host come to take the sessions out. -/
theorem isOver_turn {t : Turn} (others : t ≠ .emptied) :
    (c.turn t).phase.isOver → c.phase.isOver := by
  cases t with
  | read =>
      refine isOver_reading ?_
      split
      · exact nofun
      · exact isOver_readLine _
  | inputFailed | cancelled => exact isOver_reading nofun
  | begun index =>
      rw [turn]
      split <;> exact id
  | startEnded | stopEnded | crashed => exact id
  | givenUp | dropped => exact isOver_leaving fun _ => id
  | emptied => exact absurd rfl others
  | sessionStopped | returned => exact isOver_stopping

theorem over_emptied (before : ¬ c.phase.isOver) :
    (c.turn .emptied).phase.isOver → (c.turn .emptied).Over := by
  rw [turn, leaving]
  split
  · split
    · next idle =>
      obtain ⟨fleet, -, steps⟩ := c.state.step_deactivated_eq
      intro ended
      exact ⟨ended, congrArg (·.registry) steps, (congrArg (·.handlers) steps).trans idle.1, idle.2⟩
    · exact fun ended => absurd ended before
  · exact fun ended => absurd ended before

theorem over_of_turn (settled : c.phase.isOver → c.Over) {t : Turn}
    (ended : (c.turn t).phase.isOver) : (c.turn t).Over := by
  by_cases before : c.phase.isOver
  · exact (settled before).turn t
  · by_cases emptied : t = .emptied
    · subst emptied
      exact over_emptied before ended
    · exact absurd (isOver_turn emptied ended) before

theorem over_of_run (settled : c.phase.isOver → c.Over) {turns : List Turn}
    (ended : (c.run turns).phase.isOver) : (c.run turns).Over := by
  induction turns generalizing c with
  | nil => exact settled ended
  | cons t rest ih => exact ih (fun after => over_of_turn settled after) ended

theorem over_of_returned {s : Lifecycle.State} {input : Bytes} {turns : List Turn}
    {result : Except Error Unit}
    (returned : ((start s input).run turns).phase = .returned result) :
    ((start s input).run turns).Over := by
  refine over_of_run (fun ended => ?_) ?_
  · cases ended
  · rw [returned]
    rfl

theorem run_append (first second : List Turn) :
    c.run (first ++ second) = (c.run first).run second :=
  List.foldl_append

/-- A host that has returned does nothing more. -/
theorem phase_run_of_returned {result : Except Error Unit} (returned : c.phase = .returned result)
    (turns : List Turn) : (c.run turns).phase = .returned result := by
  induction turns generalizing c with
  | nil => exact returned
  | cons t rest ih =>
      refine ih ?_
      have settled : (c.turn t).phase = c.phase := by
        cases t with
        | read | inputFailed | cancelled => rw [turn, reading_of_ne (by simp [returned])]
        | givenUp | dropped | emptied => rw [turn, leaving_of_ne (by simp [returned])]
        | sessionStopped | returned => rw [turn, stopping_of_ne (by simp [returned])]
        | begun =>
            rw [turn]
            split <;> rfl
        | startEnded | stopEnded | crashed => rfl
      exact settled.trans returned

/-! ## The way to the end -/

theorem run_cancelled (elsewhere : c.phase ≠ .reading) (turns : List Turn) :
    c.run (.cancelled :: turns) = c.run turns := by
  rw [run_cons, turn, reading_of_ne elsewhere]

section

variable {result : Except Error Unit}

/-- The host gives up handlers that wait. -/
theorem run_givenUp (phase : c.phase = .leaving result) (handlers : List Nat) :
    (c.run (handlers.map .givenUp)).phase = .leaving result ∧
      (c.run (handlers.map .givenUp)).state =
        handlers.foldl Lifecycle.State.abandonHandler c.state := by
  induction handlers generalizing c with
  | nil => exact ⟨phase, rfl⟩
  | cons handler rest ih =>
      have turned : c.turn (.givenUp handler) = c.advance (.abandoned handler) :=
        leaving_of_phase phase _
      rw [List.map_cons, run_cons, turned]
      exact ih phase

/-- The host gives up all handlers that have not begun. -/
theorem run_dropped (phase : c.phase = .leaving result) :
    (c.run (c.jobs.map fun _ => .dropped 0)).phase = .leaving result ∧
      (c.run (c.jobs.map fun _ => .dropped 0)).state = c.state ∧
      (c.run (c.jobs.map fun _ => .dropped 0)).jobs = [] := by
  generalize remaining : c.jobs = jobs
  induction jobs generalizing c with
  | nil => exact ⟨phase, rfl, remaining⟩
  | cons job rest ih =>
      have turned : c.turn (.dropped 0) = { c with jobs := rest } := by
        rw [turn, leaving_of_phase phase, remaining]
        rfl
      rw [List.map_cons, run_cons, turned]
      exact @ih { c with jobs := rest } phase rfl

/-- The sessions stop that the host waits for, and it returns. -/
theorem exists_returned_of_stopping {sessions : List Nat}
    (phase : c.phase = .stopping result sessions) :
    ∃ turns, (∀ t ∈ turns, t.closes) ∧ (c.run turns).phase = .returned result ∧
      (c.run turns).state = c.state := by
  induction sessions generalizing c with
  | nil =>
      have turned : c.turn .returned = { c with phase := .returned result } := by
        rw [turn, stopping_of_phase phase, if_pos rfl]
      refine ⟨[.returned], by simp [Turn.closes], ?_⟩
      rw [run_cons, turned]
      exact ⟨rfl, rfl⟩
  | cons session rest ih =>
      have turned : c.turn (.sessionStopped session) =
          { c with phase := .stopping result rest, ended := c.ended ++ [session] } := by
        rw [turn, stopping_of_phase phase, if_pos (List.mem_cons_self ..), List.erase_cons_head]
      obtain ⟨turns, close, returned⟩ := @ih (c.turn (.sessionStopped session)) (by rw [turned])
      rw [turned] at returned
      refine ⟨.sessionStopped session :: turns, List.forall_mem_cons.mpr ⟨rfl, close⟩, ?_⟩
      rw [run_cons, turned]
      exact returned

theorem exists_returned_of_idle (phase : c.phase = .leaving result)
    (handlers : c.state.handlers = []) (jobs : c.jobs = []) :
    ∃ turns, (∀ t ∈ turns, t.closes) ∧ (c.run turns).phase = .returned result ∧
      (c.run turns).state = c.state.step .deactivated := by
  have turned : c.turn .emptied =
      { c.advance .deactivated with phase := .stopping result c.state.stored } := by
    rw [turn, leaving_of_phase phase, if_pos ⟨handlers, jobs⟩]
  obtain ⟨turns, close, returned, state⟩ := exists_returned_of_stopping (congrArg (·.phase) turned)
  exact ⟨.emptied :: turns, List.forall_mem_cons.mpr ⟨rfl, close⟩, returned,
    state.trans (congrArg (·.state) turned)⟩

/-- A host that reads no more can give up all handlers, whatever they wait for, and return. -/
theorem exists_returned_of_leaving (phase : c.phase = .leaving result) :
    ∃ turns, (∀ t ∈ turns, t.closes) ∧ (c.run turns).phase = .returned result ∧
      (c.run turns).state =
        ((c.state.handlers.map (·.1)).foldl Lifecycle.State.abandonHandler c.state).step
          .deactivated := by
  obtain ⟨left, state⟩ := run_givenUp phase (c.state.handlers.map (·.1))
  obtain ⟨left, same, jobs⟩ := run_dropped left
  rw [← run_append] at left same jobs
  obtain ⟨turns, close, returned, ended⟩ := exists_returned_of_idle left
    (by rw [same, state]; exact c.state.handlers_foldl_abandonHandler) jobs
  rw [← run_append] at returned ended
  refine ⟨_, ?_, returned, by rw [ended, same, state]⟩
  simp only [List.mem_append, List.mem_map]
  rintro t ((⟨handler, -, rfl⟩ | ⟨job, -, rfl⟩) | member)
  · rfl
  · rfl
  · exact close t member

end

/-- Wherever a host is, it can still return once it is cancelled, and neither a start nor a stop
that a handler waits for has to end for it. -/
theorem exists_returned (c : Course) :
    ∃ result turns, (∀ t ∈ turns, t.closes) ∧
      (c.run (.cancelled :: turns)).phase = .returned result := by
  cases phase : c.phase with
  | reading =>
      have turned : (c.turn .cancelled).phase = .leaving (.ok ()) := by
        rw [turn, reading_of_phase phase]
        rfl
      obtain ⟨turns, close, returned, _⟩ := exists_returned_of_leaving turned
      exact ⟨.ok (), turns, close, returned⟩
  | leaving result =>
      obtain ⟨turns, close, returned, _⟩ := exists_returned_of_leaving phase
      refine ⟨result, turns, close, ?_⟩
      rw [run_cancelled (by simp [phase])]
      exact returned
  | stopping result sessions =>
      obtain ⟨turns, close, returned, _⟩ := exists_returned_of_stopping phase
      refine ⟨result, turns, close, ?_⟩
      rw [run_cancelled (by simp [phase])]
      exact returned
  | returned result =>
      exact ⟨result, [], nofun, phase_run_of_returned phase _⟩

/-- Whatever the registry held when a host started, whatever it read, however it came to stop
reading and whatever its handlers, starts and stops did: when it has returned, the registry is
empty, no key is marked and no handler is left, and so it stays. -/
theorem returns_with_empty_registry (s : Lifecycle.State) (input : Bytes)
    (turns later : List Turn) (result : Except Error Unit)
    (returned : ((start s input).run turns).phase = .returned result) :
    let c := (start s input).run (turns ++ later)
    c.phase = .returned result ∧ c.state.registry = {} ∧ c.state.handlers = [] ∧ c.jobs = [] := by
  intro c
  have phase : c.phase = .returned result := by
    rw [show c = _ from run_append turns later]
    exact phase_run_of_returned returned later
  have ended : c.Over := over_of_returned phase
  exact ⟨phase, ended.registry, ended.handlers, ended.jobs⟩

/-- The session of an open buffer has died. The host begins to start another one, is cancelled,
gives up the handler and returns; that the start ends later adds nothing. -/
theorem returns_with_empty_registry_cancelled :
    let home : FilePath := ⟨Utf8.encode ['/']⟩
    let buffer := Lifecycle.State.buffer "Untitled-1"
    let s : Lifecycle.State := {
      home
      workspace := { documents := [buffer] }
      registry := { sessions := [(.untitled, 0)] }
      fleet := [{ scope := Lifecycle.State.bufferScope home, live := false }] }
    let begun := (start s []).run [.begun 0, .cancelled]
    let ended := (start s []).run
      [.begun 0, .cancelled, .givenUp 0, .emptied, .sessionStopped 0, .returned]
    begun.state.registry = { sessions := [(.untitled, 0)], marked := [.untitled] } ∧
      begun.state.handlers = [(0, .start (Lifecycle.State.bufferScope home))] ∧
      ended.phase = .returned (.ok ()) ∧ ended.state.registry = {} ∧
      (ended.turn (.startEnded 0 (.ok ()))).state.registry = {} := by
  intro home buffer s begun ended
  have returned : ended.phase = .returned (.ok ()) := rfl
  obtain ⟨_, emptied, _⟩ := returns_with_empty_registry s [] _ [] (.ok ()) returned
  obtain ⟨_, stays, _⟩ :=
    returns_with_empty_registry s [] _ [.startEnded 0 (.ok ())] (.ok ()) returned
  exact ⟨rfl, rfl, returned, emptied, stays⟩

end Course

end RLanguageHost.Host
