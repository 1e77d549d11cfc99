import RLanguageHost.Session.Server

/-!
# The stages of a session

Several parties write the status of a session: whoever launches it says that it runs, its stop says
that it stops and that it has stopped, and the end of the process says that it is over. They may
come in any order, on any machine, and as often as they like.

`Onward` says what one of them can do: the session goes forward through its stages and through its
stop, and a stop that comes to its end leaves it stopped. Only a stop that finds a session that
still needs one sets anything going, and it is the only one that does.
-/

namespace RLanguageHost.Session

/-- How far a stop has come. -/
def StopPhase.rank : StopPhase → Nat
  | .idle => 0
  | .queued _ => 1
  | .asked .. => 2
  | .handshake .. => 3
  | .process => 4
  | .done => 5

theorem StopPhase.rank_eq_zero_iff {phase : StopPhase} : phase.rank = 0 ↔ phase = .idle := by
  cases phase <;> simp [rank]

theorem StopPhase.rank_le_of_isAsking {phase : StopPhase} (asking : phase.isAsking) :
    phase.rank ≤ 3 := by
  cases phase with
  | asked => exact Nat.le_succ 2
  | handshake => exact Nat.le_refl 3
  | idle | queued | process | done => cases asking

namespace Server

/-- Whether an act is a stop that gets past the check whether one is needed. -/
def Act.passes (s : Server) : Act → Bool
  | .stop _ => s.needsStop
  | _ => false

/-- How many stops get past that check. -/
def passed (s : Server) : List Act → Nat
  | [] => 0
  | a :: rest => (if a.passes s then 1 else 0) + (s.act a).passed rest

variable {s t u : Server}

/-- The session has gone forward, or nowhere. -/
structure Onward (s t : Server) : Prop where
  stage : s.status.stage ≤ t.status.stage
  rank : s.stopping.rank ≤ t.stopping.rank
  done : t.stopping = .done → s.stopping = .done ∨ t.status = .stopped

theorem stage_le_three (status : Status) : status.stage ≤ 3 := by
  cases status <;> decide

theorem stage_eq_three_iff {status : Status} : status.stage = 3 ↔ status = .stopped := by
  cases status <;> decide

theorem Onward.stopped (h : Onward s t) (stopped : s.status = .stopped) : t.status = .stopped := by
  have last := h.stage
  rw [stopped] at last
  exact stage_eq_three_iff.mp (Nat.le_antisymm (stage_le_three _) last)

theorem needsStop_iff : s.needsStop ↔ s.status.stage ≤ 1 := by
  unfold needsStop
  cases s.status <;> decide

theorem Onward.needsStop (h : Onward s t) (needs : t.needsStop) : s.needsStop :=
  needsStop_iff.mpr (Nat.le_trans h.stage (needsStop_iff.mp needs))

theorem Onward.refl (s : Server) : Onward s s :=
  ⟨Nat.le_refl _, Nat.le_refl _, .inl⟩

theorem Onward.trans (first : Onward s t) (second : Onward t u) : Onward s u where
  stage := Nat.le_trans first.stage second.stage
  rank := Nat.le_trans first.rank second.rank
  done := fun done => by
    rcases second.done done with before | stopped
    · exact (first.done before).imp id second.stopped
    · exact .inr stopped

/-- What leaves status and stop alone. -/
theorem onward_of_same (status : t.status = s.status) (stopping : t.stopping = s.stopping) :
    Onward s t :=
  ⟨Nat.le_of_eq (by rw [status]), Nat.le_of_eq (by rw [stopping]),
    fun done => .inl (stopping ▸ done)⟩

/-! ## What happens without a stop -/

theorem stage_le_write (status : Status) :
    status.stage ≤ (status.write (.transition .starting .running)).stage := by
  cases status <;> decide

theorem onward_noteExit (s : Server) (exit : Exit) : Onward s (s.noteExit exit) :=
  ⟨stage_le_three _, Nat.le_refl _, .inl⟩

theorem onward_foldl_noteExit (s : Server) (exits : List Exit) :
    Onward s (exits.foldl noteExit s) := by
  induction exits generalizing s with
  | nil => exact .refl s
  | cons exit rest ih => exact (onward_noteExit s exit).trans (ih _)

theorem stopping_foldl_noteExit (s : Server) (exits : List Exit) :
    (exits.foldl noteExit s).stopping = s.stopping := by
  induction exits generalizing s with
  | nil => rfl
  | cons exit rest ih => exact ih _

/-! ## What a stop does -/

/-- A step of a stop: it comes at least as far as a rank, and only the end of the stop or of the
process writes the status. -/
structure Reaches (s t : Server) (rank : Nat) : Prop where
  status : t.status = s.status ∨ t.status = .stopped
  rank : rank ≤ t.stopping.rank
  done : t.stopping = .done → t.status = .stopped

theorem Reaches.onward {rank : Nat} (h : Reaches s t rank) (before : s.stopping.rank ≤ rank) :
    Onward s t where
  stage := by
    rcases h.status with same | stopped
    · exact Nat.le_of_eq (by rw [same])
    · rw [stopped]
      exact stage_le_three _
  rank := Nat.le_trans before h.rank
  done := fun done => .inr (h.done done)

theorem Reaches.mono {rank earlier : Nat} (h : Reaches s t rank) (le : earlier ≤ rank) :
    Reaches s t earlier :=
  { h with rank := Nat.le_trans le h.rank }

theorem reaches_stopProcess (m : Machine) (s : Server) : Reaches s (s.stopProcess m).2 4 := by
  rw [stopProcess]
  dsimp only
  split
  · exact ⟨.inl rfl, Nat.le_refl 4, nofun⟩
  · exact ⟨.inr rfl, Nat.le_succ 4, fun _ => rfl⟩

theorem reaches_stopProcess_withClient (m : Machine) (s : Server) (c : Client) :
    Reaches s ((s.withClient c).stopProcess m).2 4 := by
  obtain ⟨status, rank, done⟩ := reaches_stopProcess m (s.withClient c)
  exact ⟨status, rank, done⟩

theorem reaches_shakeHands (m : Machine) (s : Server) (deadline : Nat) :
    Reaches s (s.shakeHands m deadline).2 2 := by
  rw [shakeHands]
  split
  · exact (reaches_stopProcess_withClient m s _).mono (by decide)
  · split
    · exact (reaches_stopProcess_withClient m s _).mono (by decide)
    · exact ⟨.inl rfl, Nat.le_refl 2, nofun⟩

theorem reaches_afterLook (m : Machine) (s : Server) (request : String) (deadline : Nat)
    (looked : Attempt Client.Error Unit × Client) :
    Reaches s (s.afterLook m request deadline looked).2 3 := by
  obtain ⟨outcome, c⟩ := looked
  cases outcome with
  | waiting => exact ⟨.inl rfl, Nat.le_refl 3, nofun⟩
  | failed => exact (reaches_stopProcess_withClient m s _).mono (by decide)
  | done => exact (reaches_stopProcess_withClient m s _).mono (by decide)

/-- What the next thing is that a stop does: it asks once no call has the client, it looks whether
it was answered, it gets to the process when its time is over, or the process has ended. -/
theorem stopStep_cases {m : Machine} {after : Machine × Server} (h : s.stopStep m = some after) :
    (∃ deadline, s.stopping = .queued deadline ∧ ¬ s.receiving ∧ after = s.shakeHands m deadline) ∨
      (∃ request deadline looked, s.stopping.isAsking ∧
        after = s.afterLook m request deadline looked) ∨
      (∃ deadline, (s.stopping = .queued deadline ∨ s.stopping.isAsking) ∧
        deadline ≤ m.clock ∧ after = s.stopProcess m) ∨
      (s.stopping = .process ∧
        after = (m, { s with status := s.status.write (.set .stopped), stopping := .done })) := by
  rw [stopStep] at h
  cases phase : s.stopping with
  | idle | done =>
      rw [phase] at h
      cases h
  | queued deadline =>
      rw [phase] at h
      dsimp only at h
      split at h
      · next free => exact .inl ⟨deadline, rfl, by simpa using free, (Option.some.inj h).symm⟩
      · split at h
        · next due => exact .inr (.inr (.inl ⟨deadline, .inl rfl, due, (Option.some.inj h).symm⟩))
        · cases h
  | asked request deadline =>
      rw [phase] at h
      exact .inr (.inl ⟨request, deadline, _, rfl, (Option.some.inj h).symm⟩)
  | handshake request deadline =>
      rw [phase] at h
      dsimp only at h
      split at h
      · exact .inr (.inl ⟨request, deadline, _, rfl, (Option.some.inj h).symm⟩)
      · split at h
        · next due => exact .inr (.inr (.inl ⟨deadline, .inr rfl, due, (Option.some.inj h).symm⟩))
        · cases h
  | process =>
      rw [phase] at h
      dsimp only at h
      split at h
      · exact .inr (.inr (.inr ⟨rfl, (Option.some.inj h).symm⟩))
      · cases h

/-- A stop that was begun goes forward. -/
theorem onward_stopStep {m : Machine} {after : Machine × Server} (h : s.stopStep m = some after) :
    Onward s after.2 := by
  obtain ⟨deadline, queued, -, rfl⟩ | ⟨request, deadline, looked, asking, rfl⟩ |
    ⟨deadline, waits, -, rfl⟩ | ⟨process, rfl⟩ := stopStep_cases h
  · have before : s.stopping.rank ≤ 2 := by
      rw [queued]
      exact Nat.le_succ 1
    exact (reaches_shakeHands m s deadline).onward before
  · have before : s.stopping.rank ≤ 3 := StopPhase.rank_le_of_isAsking asking
    exact (reaches_afterLook m s request deadline looked).onward before
  · have before : s.stopping.rank ≤ 4 := by
      rcases waits with queued | asking
      · rw [queued]
        exact Nat.le_add_left 1 3
      · exact Nat.le_succ_of_le (StopPhase.rank_le_of_isAsking asking)
    exact (reaches_stopProcess m s).onward before
  · refine ⟨stage_le_three _, ?_, fun _ => .inr rfl⟩
    rw [process]
    exact Nat.le_succ 4

/-- A stop that nobody has begun does nothing. -/
theorem stopStep_of_idle (idle : s.stopping = .idle) (m : Machine) : s.stopStep m = none := by
  rw [stopStep, idle]

/-- What the next thing is that happens to a session. -/
theorem react_cases {m : Machine} {out : Output} {after : Machine × Server × Output}
    (h : s.react m out = some after) :
    (∃ moved, s.wire.pump m = some moved ∧ after.2.1 = { s with wire := moved.2 }) ∨
      (∃ launch exits, after.2.1 = List.foldl noteExit { s with launch } exits) ∨
      ∃ stepped, s.stopStep m = some stepped ∧ after.2.1 = stepped.2 := by
  rw [react] at h
  dsimp only at h
  rw [Option.or_eq_some_iff, Option.or_eq_some_iff] at h
  rcases h with (wired | ⟨_, launched⟩) | ⟨_, stops⟩
  · obtain ⟨moved, pumped, h⟩ := Option.bind_eq_some_iff.mp wired
    rw [← Option.some.inj h]
    exact .inl ⟨moved, pumped, rfl⟩
  · obtain ⟨⟨_, launch, _, exits⟩, _, h⟩ := Option.bind_eq_some_iff.mp launched
    rw [← Option.some.inj h]
    exact .inr (.inl ⟨launch, exits, rfl⟩)
  · obtain ⟨stepped, step, h⟩ := Option.bind_eq_some_iff.mp stops
    rw [← Option.some.inj h]
    exact .inr (.inr ⟨stepped, step, rfl⟩)

/-- A stop that is needed goes on from a status that says so. -/
theorem reaches_beginStop (m : Machine) (needs : s.needsStop) :
    Reaches { s with status := .stopping } (s.beginStop m).2 1 := by
  have begun : s.status.write .beginStop = .stopping := by
    rw [Status.write, if_pos (show Status.Write.beginStop.applies s.status from needs)]
    rfl
  rw [beginStop, if_neg (by simpa using needs), begun]
  dsimp only
  split
  · exact ⟨.inl rfl, Nat.le_refl 1, nofun⟩
  · exact (reaches_shakeHands m { s with status := .stopping } _).mono (by decide)

/-- A stop that is not needed leaves machine and session alone. -/
theorem beginStop_of_not_needsStop (m : Machine) (refused : ¬ s.needsStop) :
    s.beginStop m = (m, s) := by
  rw [beginStop, if_pos]
  simpa using refused

/-! ## Acts -/

theorem send_keeps (s : Server) (message : Json) :
    (s.send message).2.status = s.status ∧ (s.send message).2.stopping = s.stopping := by
  rw [send]
  split
  · exact ⟨rfl, rfl⟩
  · split
    · exact ⟨rfl, rfl⟩
    · split <;> exact ⟨rfl, rfl⟩

theorem receive_keeps (s : Server) :
    s.receive.2.status = s.status ∧ s.receive.2.stopping = s.stopping := by
  rw [receive]
  split <;> exact ⟨rfl, rfl⟩

/-- Whatever happens of itself goes forward, and begins no stop. -/
theorem onward_react {m : Machine} {out : Output} {after : Machine × Server × Output}
    (h : s.react m out = some after) :
    Onward s after.2.1 ∧ (s.stopping = .idle → after.2.1.stopping = .idle) := by
  rcases react_cases h with ⟨moved, -, same⟩ | ⟨launch, exits, same⟩ | ⟨_, step, same⟩
  · rw [same]
    exact ⟨onward_of_same rfl rfl, id⟩
  · obtain ⟨stage, rank, done⟩ := onward_foldl_noteExit { s with launch } exits
    rw [same]
    exact ⟨⟨stage, rank, done⟩, fun idle => (stopping_foldl_noteExit _ _).trans idle⟩
  · rw [same]
    refine ⟨onward_stopStep step, fun idle => ?_⟩
    rw [stopStep_of_idle idle] at step
    cases step

theorem onward_act_of_not_passes {a : Act} (others : ¬ a.passes s) :
    Onward s (s.act a) ∧ (s.stopping = .idle → (s.act a).stopping = .idle) := by
  cases a with
  | launched => exact ⟨⟨stage_le_write _, Nat.le_refl _, .inl⟩, id⟩
  | exited exit => exact ⟨onward_noteExit s exit, id⟩
  | stop m =>
      rw [act, beginStop_of_not_needsStop m others]
      exact ⟨.refl s, id⟩
  | reacts m out =>
      rw [act]
      cases next : s.react m out with
      | none => exact ⟨.refl s, id⟩
      | some after => exact onward_react next
  | send message =>
      obtain ⟨status, stopping⟩ := send_keeps s message
      exact ⟨onward_of_same status stopping, fun idle => stopping.trans idle⟩
  | receive =>
      obtain ⟨status, stopping⟩ := receive_keeps s
      exact ⟨onward_of_same status stopping, fun idle => stopping.trans idle⟩
  | leaveReceive | cancelled | dropped => exact ⟨onward_of_same rfl rfl, id⟩

theorem needsStop_of_passes {a : Act} (passes : a.passes s) : s.needsStop := by
  cases a with
  | stop => exact passes
  | _ => cases passes

/-- A stop that gets past the check: the session needs no other one, and this one is under way. -/
theorem onward_act_of_passes {a : Act} (passes : a.passes s) (idle : s.stopping = .idle) :
    Onward s (s.act a) ∧ ¬ (s.act a).needsStop ∧ (s.act a).stopping ≠ .idle := by
  cases a with
  | stop m =>
      obtain ⟨status, rank, done⟩ := reaches_beginStop m passes
      have late : 2 ≤ (s.beginStop m).2.status.stage := by
        rcases status with stopping | stopped
        · rw [stopping]
          exact Nat.le_refl 2
        · rw [stopped]
          exact Nat.le_succ 2
      refine ⟨⟨?_, ?_, fun ended => .inr (done ended)⟩, ?_, ?_⟩
      · exact Nat.le_trans (needsStop_iff.mp passes) (Nat.le_of_succ_le late)
      · rw [idle]
        exact Nat.zero_le _
      · rw [needsStop_iff]
        exact Nat.not_le.mpr late
      · intro (none : (s.beginStop m).2.stopping = .idle)
        rw [none] at rank
        exact Nat.not_succ_le_zero 0 rank
  | _ => cases passes

/-- What holds of a session at all times: while it still needs to be stopped nobody is stopping
it. -/
def Settled (s : Server) : Prop :=
  s.needsStop → s.stopping = .idle

theorem Settled.act (h : s.Settled) (a : Act) : Onward s (s.act a) ∧ (s.act a).Settled := by
  by_cases passes : a.passes s
  · obtain ⟨onward, settled, _⟩ := onward_act_of_passes passes (h (needsStop_of_passes passes))
    exact ⟨onward, fun needs => absurd needs settled⟩
  · obtain ⟨onward, idle⟩ := onward_act_of_not_passes passes
    exact ⟨onward, fun needs => idle (h (onward.needsStop needs))⟩

theorem Settled.acts (h : s.Settled) (acts : List Act) :
    Onward s (s.acts acts) ∧ (s.acts acts).Settled := by
  induction acts generalizing s with
  | nil => exact ⟨.refl s, h⟩
  | cons a rest ih =>
      obtain ⟨now, settled⟩ := h.act a
      obtain ⟨later, settled⟩ := ih settled
      exact ⟨now.trans later, settled⟩

/-! ## Stops that get past the check -/

theorem Settled.passed_eq_zero (h : s.Settled) (spent : ¬ s.needsStop) (acts : List Act) :
    s.passed acts = 0 := by
  induction acts generalizing s with
  | nil => rfl
  | cons a rest ih =>
      obtain ⟨onward, settled⟩ := h.act a
      rw [passed, if_neg (mt needsStop_of_passes spent), Nat.zero_add]
      exact ih settled (mt onward.needsStop spent)

theorem Settled.passed_le_one (h : s.Settled) (acts : List Act) : s.passed acts ≤ 1 := by
  induction acts generalizing s with
  | nil => exact Nat.zero_le 1
  | cons a rest ih =>
      have settled := (h.act a).2
      rw [passed]
      by_cases passes : a.passes s
      · obtain ⟨_, spent, _⟩ := onward_act_of_passes passes (h (needsStop_of_passes passes))
        exact Nat.le_of_eq (by rw [if_pos passes, settled.passed_eq_zero spent])
      · rw [if_neg passes, Nat.zero_add]
        exact ih settled

/-- A session is being stopped, or was, exactly if a stop got past the check. -/
theorem Settled.passed_eq_zero_iff (h : s.Settled) (idle : s.stopping = .idle) (acts : List Act) :
    s.passed acts = 0 ↔ (s.acts acts).stopping = .idle := by
  induction acts generalizing s with
  | nil => exact iff_of_true rfl idle
  | cons a rest ih =>
      have settled := (h.act a).2
      rw [passed]
      by_cases passes : a.passes s
      · obtain ⟨_, _, begun⟩ := onward_act_of_passes passes idle
        have forward := (settled.acts rest).1.rank
        refine iff_of_false (by rw [if_pos passes]; omega) fun still => begun ?_
        rw [← StopPhase.rank_eq_zero_iff] at still ⊢
        exact Nat.le_zero.mp (Nat.le_trans forward (Nat.le_of_eq still))
      · obtain ⟨_, stays⟩ := onward_act_of_not_passes passes
        rw [if_neg passes, Nat.zero_add]
        exact ih settled (stays idle)

/-- A session that is there has been called running after its process may have ended. -/
theorem status_ofLaunch (scope : Scope) (launch : RLanguageHost.Server.Launch) (wire : Wire)
    (shutdownLimit : Nat) (exits : List Exit) :
    (ofLaunch scope launch wire exits).status =
      ((launching scope launch wire shutdownLimit).acts
        (exits.map .exited ++ [.launched])).status := by
  cases exits with
  | nil => rfl
  | cons exit rest =>
      let s := (launching scope launch wire shutdownLimit).noteExit exit
      have settled : s.Settled := fun _ => rfl
      have stopped : (s.acts (rest.map .exited)).status = .stopped :=
        (settled.acts _).1.stopped rfl
      rw [List.map_cons, List.cons_append, acts, List.foldl_cons, List.foldl_append]
      change _ = (s.acts (rest.map .exited)).status.write (.transition .starting .running)
      rw [stopped]
      rfl

/-- From its launch on, whatever is done to a session and in whatever order, its status goes forward
only, a session that needs no stop never needs one again, and one that has stopped stays so. One
call for a stop at most gets past the check, and one that does not changes nothing; only if one does
is anything done to stop the session, each step of it after the one before. A stop that has come to
its end leaves the session stopped. -/
theorem status_moves_forward (scope : Scope) (launch : RLanguageHost.Server.Launch) (wire : Wire)
    (shutdownLimit : Nat) (before after : List Act) :
    let s := launching scope launch wire shutdownLimit
    let t := s.acts before
    let u := t.acts after
    t.status.stage ≤ u.status.stage ∧ (¬ t.needsStop → ¬ u.needsStop) ∧
      (t.status = .stopped → u.status = .stopped) ∧ s.passed (before ++ after) ≤ 1 ∧
      (∀ m, ¬ t.needsStop → t.beginStop m = (m, t)) ∧
      (s.passed before = 0 ↔ t.stopping = .idle) ∧ t.stopping.rank ≤ u.stopping.rank ∧
      (t.stopping = .done → t.status = .stopped) := by
  intro s t u
  have settled : s.Settled := fun _ => rfl
  obtain ⟨launched, settled'⟩ := settled.acts before
  obtain ⟨onward, _⟩ := settled'.acts after
  refine ⟨onward.stage, mt onward.needsStop, onward.stopped, settled.passed_le_one _,
    fun m => beginStop_of_not_needsStop m, settled.passed_eq_zero_iff rfl before, onward.rank, ?_⟩
  exact fun ended => (launched.done ended).resolve_left nofun

end Server

end RLanguageHost.Session
