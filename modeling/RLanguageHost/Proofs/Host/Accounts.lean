import RLanguageHost.Proofs.Host.Course

/-!
# The accounts of a host

A session that was taken out of the registry waits for its stop to end: with a handler, or, if it
was taken out last, with the host itself. `Accounted` says that none is lost on the way and none
comes twice, whatever happens. So when the host has returned, every stop has either ended or was cut
off.

A stop is cut off with the handler that waits for it. The host gives up its handlers when it has
read its events, and a handler that closes a document or removes folders is given up like one that
starts a session.
-/

namespace RLanguageHost.Host.Course

variable {c : Course}

/-- Every session that was taken out of the registry waits for its stop, has stopped, or its stop
was cut off. -/
structure Accounted (c : Course) : Prop where
  sound : c.state.Sound
  nodup : c.taken.Nodup
  gone : ∀ session ∈ c.taken, session ∉ c.state.stored
  known : ∀ session ∈ c.taken, session < c.state.fleet.length
  balanced : c.taken.Perm (c.state.stopping ++ c.phase.sessions ++ c.ended ++ c.cut)

theorem accounted_start {s : Lifecycle.State} (sound : s.Sound) (input : Bytes) :
    (start s input).Accounted where
  sound :=
    { sound with
      distinct := .nil
      numbered := fun _ member => by cases member
      resolved := fun _ _ member => by cases member }
  nodup := .nil
  gone := fun _ member => by cases member
  known := fun _ member => by cases member
  balanced := .nil

section

variable (h : c.Accounted) (e : Lifecycle.State.Event)
include h

theorem Accounted.nodup_advance : (c.advance e).taken.Nodup := by
  refine List.nodup_append.mpr ⟨h.nodup, h.sound.nodup_takenBy e, ?_⟩
  rintro session before _ now rfl
  exact h.gone session before (Lifecycle.State.mem_stored_of_mem_takenBy now).1

theorem Accounted.gone_advance :
    ∀ session ∈ (c.advance e).taken, session ∉ (c.advance e).state.stored := by
  intro session member stored
  rcases List.mem_append.mp member with before | now
  · rcases h.sound.mem_stored_step stored with kept | started
    · exact h.gone session before kept
    · exact Nat.ne_of_lt (h.known session before) started
  · exact (Lifecycle.State.mem_stored_of_mem_takenBy now).2 stored

theorem Accounted.known_advance :
    ∀ session ∈ (c.advance e).taken, session < (c.advance e).state.fleet.length := by
  intro session member
  refine Nat.lt_of_lt_of_le ?_ (c.state.length_fleet_step e)
  rcases List.mem_append.mp member with before | now
  · exact h.known session before
  · exact h.sound.lt_of_mem_stored (Lifecycle.State.mem_stored_of_mem_takenBy now).1

theorem Accounted.advance (running : e ≠ .deactivated) : (c.advance e).Accounted where
  sound := (h.sound.step e).sound
  nodup := h.nodup_advance e
  gone := h.gone_advance e
  known := h.known_advance e
  balanced := by
    rw [List.perm_iff_count]
    intro session
    have before := h.balanced.count_eq session
    have moved := (h.sound.perm_stopping running).count_eq session
    simp only [Course.advance, List.count_append] at before moved ⊢
    omega

end

/-- The sessions that the host takes out last wait with the host. -/
theorem Accounted.emptied (h : c.Accounted) {result : Except Error Unit}
    (phase : c.phase = .leaving result) :
    { c.advance .deactivated with
      phase := .stopping result c.state.stored : Course }.Accounted where
  sound := (h.sound.step .deactivated).sound
  nodup := h.nodup_advance .deactivated
  gone := h.gone_advance .deactivated
  known := h.known_advance .deactivated
  balanced := by
    obtain ⟨fleet, -, steps⟩ := c.state.step_deactivated_eq
    have handlers : (c.state.step .deactivated).stopping = c.state.stopping := by rw [steps]; rfl
    rw [List.perm_iff_count]
    intro session
    have before := h.balanced.count_eq session
    simp only [Course.advance, List.count_append, List.count_nil, phase, handlers, Phase.sessions,
      Lifecycle.State.takenBy_deactivated, Lifecycle.State.endedBy, Lifecycle.State.cutBy]
      at before ⊢
    omega

theorem Accounted.sessionStopped (h : c.Accounted) {result : Except Error Unit}
    {sessions : List Nat} (phase : c.phase = .stopping result sessions) {stopped : Nat}
    (waits : stopped ∈ sessions) :
    { c with
      phase := .stopping result (sessions.erase stopped)
      ended := c.ended ++ [stopped] : Course }.Accounted :=
  { h with
    balanced := by
      rw [List.perm_iff_count]
      intro session
      have before := h.balanced.count_eq session
      have taken := (List.perm_cons_erase waits).count_eq session
      simp only [phase, Phase.sessions, List.count_append, List.count_cons, List.count_nil]
        at before taken ⊢
      omega }

/-- What a host waits for of itself may go on in another phase. -/
theorem Accounted.withPhase (h : c.Accounted) {phase : Phase}
    (same : phase.sessions = c.phase.sessions) : { c with phase }.Accounted :=
  { h with balanced := by rw [same]; exact h.balanced }

theorem Accounted.withInput (h : c.Accounted) (input : List Bytes) : { c with input }.Accounted :=
  { h with }

theorem Accounted.withJobs (h : c.Accounted) (jobs : List Lifecycle.State.Job) :
    { c with jobs }.Accounted :=
  { h with }

theorem Accounted.readLine (h : c.Accounted) (reads : c.phase = .reading) (line : Bytes) :
    (c.readLine line).Accounted := by
  have left (result : Except Error Unit) : (c.leave result).Accounted :=
    h.withPhase (by rw [reads]; rfl)
  rw [Course.readLine]
  split
  · exact left _
  · exact h
  · exact left _
  · exact (h.advance (.workspaceChanged _) (by simp)).withJobs _

/-! ## Turns -/

section

variable (h : c.Accounted)
include h

theorem Accounted.reading {next : Course} (goesOn : c.phase = .reading → next.Accounted) :
    (c.reading next).Accounted := by
  by_cases phase : c.phase = .reading
  · rw [reading_of_phase phase]
    exact goesOn phase
  · rwa [reading_of_ne phase]

theorem Accounted.leaving {next : Except Error Unit → Course}
    (goesOn : ∀ result, c.phase = .leaving result → (next result).Accounted) :
    (c.leaving next).Accounted := by
  by_cases phase : ∃ result, c.phase = .leaving result
  · obtain ⟨result, phase⟩ := phase
    rw [leaving_of_phase phase]
    exact goesOn result phase
  · rwa [leaving_of_ne (not_exists.mp phase)]

theorem Accounted.stopping {next : Except Error Unit → List Nat → Course}
    (goesOn : ∀ result sessions, c.phase = .stopping result sessions →
      (next result sessions).Accounted) : (c.stopping next).Accounted := by
  rw [Course.stopping]
  split
  · next phase => exact goesOn _ _ phase
  · exact h

theorem Accounted.turn (t : Turn) : (c.turn t).Accounted := by
  have left (result : Except Error Unit) : (c.reading (c.leave result)).Accounted :=
    h.reading fun phase => h.withPhase (by rw [phase]; rfl)
  cases t with
  | read =>
      refine h.reading fun phase => ?_
      split
      · exact h.withPhase (by rw [phase]; rfl)
      · next line rest _ => exact (h.withInput rest).readLine phase line
  | inputFailed | cancelled => exact left _
  | begun index =>
      rw [Course.turn]
      split
      · exact (h.withJobs _).advance _ (by simp)
      · exact h
  | startEnded | stopEnded | crashed => exact h.advance _ (by simp)
  | givenUp handler => exact h.leaving fun _ _ => h.advance _ (by simp)
  | dropped index => exact h.leaving fun _ _ => h.withJobs _
  | emptied =>
      refine h.leaving fun result phase => ?_
      split
      · exact h.emptied phase
      · exact h
  | sessionStopped session =>
      refine h.stopping fun result sessions phase => ?_
      split
      · next waits => exact h.sessionStopped phase waits
      · exact h
  | returned =>
      refine h.stopping fun result sessions phase => ?_
      split
      · next none => exact h.withPhase (by rw [phase, none]; rfl)
      · exact h

theorem Accounted.run (turns : List Turn) : (c.run turns).Accounted := by
  induction turns generalizing c with
  | nil => exact h
  | cons t rest ih => exact ih (h.turn t)

end

/-! ## Stops that are cut off -/

/-- A turn cuts off a stop: a handler that waits for one is given up. -/
def Cuts (c : Course) : Turn → Prop
  | .givenUp handler => (∃ result, c.phase = .leaving result) ∧ c.state.stopOf handler ≠ []
  | _ => False

/-- None of the turns cuts off a stop. -/
def Spares : Course → List Turn → Prop
  | _, [] => True
  | c, t :: rest => ¬ c.Cuts t ∧ (c.turn t).Spares rest

theorem cut_readLine (line : Bytes) : (c.readLine line).cut = c.cut := by
  rw [readLine]
  split
  · rfl
  · rfl
  · rfl
  · exact List.append_nil _

theorem cut_reading {next : Course} (same : next.cut = c.cut) : (c.reading next).cut = c.cut := by
  rw [reading]
  split
  · exact same
  · rfl

theorem cut_leaving {next : Except Error Unit → Course}
    (same : ∀ result, (next result).cut = c.cut) : (c.leaving next).cut = c.cut := by
  rw [leaving]
  split
  · exact same _
  · rfl

theorem cut_stopping {next : Except Error Unit → List Nat → Course}
    (same : ∀ result sessions, (next result sessions).cut = c.cut) :
    (c.stopping next).cut = c.cut := by
  rw [stopping]
  split
  · exact same _ _
  · rfl

/-- Only by giving up a handler that waits is a stop cut off. -/
theorem cut_turn_of_ne {t : Turn} (others : ∀ handler, t ≠ .givenUp handler) :
    (c.turn t).cut = c.cut := by
  cases t with
  | read =>
      refine cut_reading ?_
      split
      · rfl
      · exact cut_readLine _
  | inputFailed | cancelled => exact cut_reading rfl
  | begun index =>
      rw [turn]
      split
      · exact List.append_nil _
      · rfl
  | startEnded | stopEnded | crashed => exact List.append_nil _
  | givenUp handler => exact absurd rfl (others handler)
  | dropped index => exact cut_leaving fun _ => rfl
  | emptied =>
      refine cut_leaving fun _ => ?_
      split
      · exact List.append_nil _
      · rfl
  | sessionStopped | returned =>
      refine cut_stopping fun _ _ => ?_
      split <;> rfl

theorem cut_turn (t : Turn) : (c.turn t).cut = [] ↔ c.cut = [] ∧ ¬ c.Cuts t := by
  by_cases givesUp : ∃ handler, t = .givenUp handler
  · obtain ⟨handler, rfl⟩ := givesUp
    rw [turn, leaving]
    split
    · next result phase =>
      rw [Cuts, phase]
      simp [advance, Lifecycle.State.cutBy]
    · next elsewhere =>
      have spared : ¬ c.Cuts (.givenUp handler) := fun cuts => by
        obtain ⟨⟨result, phase⟩, _⟩ := cuts
        exact elsewhere result phase
      simp [spared]
  · have others := not_exists.mp givesUp
    have spared : ¬ c.Cuts t := by
      cases t with
      | givenUp handler => exact absurd rfl (others handler)
      | _ => exact id
    rw [cut_turn_of_ne others]
    exact (and_iff_left spared).symm

theorem cut_run (turns : List Turn) : (c.run turns).cut = [] ↔ c.cut = [] ∧ c.Spares turns := by
  induction turns generalizing c with
  | nil => exact (and_iff_left trivial).symm
  | cons t rest ih => rw [Spares, ← and_assoc, ← cut_turn, ← ih]; rfl

/-- When a host has returned, each session that was taken out of the registry has either come to the
end of its stop, well or badly, or its stop was cut off, and not both. All stops have ended exactly
if no handler that waited for a stop was given up. -/
theorem stops_end_or_are_cut_off {s : Lifecycle.State} (sound : s.Sound) (input : Bytes)
    (turns : List Turn) (result : Except Error Unit)
    (returned : ((start s input).run turns).phase = .returned result) :
    let c := (start s input).run turns
    c.taken.Nodup ∧ (∀ session, session ∈ c.taken ↔ session ∈ c.ended ∨ session ∈ c.cut) ∧
      (∀ session ∈ c.ended, session ∉ c.cut) ∧
      ((∀ session ∈ c.taken, session ∈ c.ended) ↔ (start s input).Spares turns) := by
  intro c
  have accounted : c.Accounted := (accounted_start sound input).run turns
  have settled : c.Over := over_of_returned returned
  have balanced : c.taken.Perm (c.ended ++ c.cut) := by
    have stopping : c.state.stopping = [] := by rw [Lifecycle.State.stopping, settled.handlers]; rfl
    have all := accounted.balanced
    rwa [stopping, show c.phase = _ from returned] at all
  have apart := List.nodup_append.mp (balanced.nodup_iff.mp accounted.nodup)
  have only : ∀ session ∈ c.ended, session ∉ c.cut := fun session ended cut =>
    apart.2.2 session ended session cut rfl
  refine ⟨accounted.nodup, fun session => ?_, only, ?_⟩
  · rw [balanced.mem_iff, List.mem_append]
  · have spared : c.cut = [] ↔ (start s input).Spares turns :=
      (cut_run turns).trans (and_iff_right rfl)
    rw [← spared, List.eq_nil_iff_forall_not_mem]
    constructor
    · intro all session cut
      exact only session (all session (balanced.mem_iff.mpr (List.mem_append_right _ cut))) cut
    · intro none session taken
      rcases List.mem_append.mp (balanced.mem_iff.mp taken) with ended | cut
      · exact ended
      · exact absurd cut (none session)

/-! ## A buffer that is closed -/

def bufferHost : Lifecycle.State where
  home := ⟨Utf8.encode ['/']⟩
  workspace := { documents := [Lifecycle.State.buffer "a"] }

/-- The line that tells a host that the buffer was closed. -/
def closingLine : Bytes :=
  Utf8.encode "[\"didClose\", \"untitled:a\"]".toList

/-- The host when it has a session for the buffer. -/
def served : Course :=
  (start bufferHost closingLine).run [.begun 0, .startEnded 0 (.ok ())]

theorem served_read :
    served.turn .read =
      { served with
        state := { served.state with workspace := {} }
        input := []
        jobs := [.closeDocument (Lifecycle.State.buffer "a")] } := by
  have parsed : Host.readLine closingLine = .event (.closed (Lifecycle.State.buffer "a").uri) := by
    decide +kernel
  have input : served.input = [closingLine] := by decide +kernel
  rw [turn_read_of_event rfl input parsed nofun]
  rfl

/-- The session of a buffer that was closed begins to stop, and the stop ends before the host
returns. -/
theorem stops_end_or_are_cut_off_in_time :
    let turns := [.begun 0, .startEnded 0 (.ok ()), .read, .begun 0, .read, .stopEnded 1 (.ok ()),
      .emptied, .returned]
    let c := (start bufferHost closingLine).run turns
    bufferHost.Sound ∧ c.phase = .returned (.ok ()) ∧ c.taken = [0] ∧
      ∀ session ∈ c.taken, session ∈ c.ended := by
  intro turns c
  have sound : bufferHost.Sound := Lifecycle.State.sound_initial _ _
  have reads : c = (served.turn .read).run
      [.begun 0, .read, .stopEnded 1 (.ok ()), .emptied, .returned] := rfl
  rw [served_read] at reads
  have returned : c.phase = .returned (.ok ()) := by rw [reads]; rfl
  obtain ⟨_, each, _, _⟩ :=
    stops_end_or_are_cut_off sound closingLine turns (.ok ()) returned
  have none : c.cut = [] := by rw [reads]; rfl
  refine ⟨sound, returned, by rw [reads]; rfl, fun session taken => ?_⟩
  rcases (each session).mp taken with ended | cut
  · exact ended
  · rw [none] at cut
    cases cut

/-- The same host finds the end of its input while the handler waits for the stop, and gives it up:
the session was taken out, and its stop never ends. -/
theorem stop_cut_off :
    let c := (start bufferHost closingLine).run
      [.begun 0, .startEnded 0 (.ok ()), .read, .begun 0, .read, .givenUp 1, .emptied, .returned]
    c.phase = .returned (.ok ()) ∧ c.taken = [0] ∧ c.ended = [] ∧ c.cut = [0] := by
  intro c
  have reads : c = (served.turn .read).run
      [.begun 0, .read, .givenUp 1, .emptied, .returned] := rfl
  rw [served_read] at reads
  rw [reads]
  exact ⟨rfl, rfl, rfl, rfl⟩

end RLanguageHost.Host.Course
