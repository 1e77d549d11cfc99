import RLanguageHost.Proofs.Child.Exits

/-!
# How long a process counts as running

A call that starts a process makes it count as running, and a call that fails changes nothing. What
comes then is told by `Turn`: everything that can happen to a supervisor while no call stops its
process. A turn leaves the state and the watches that are open as they are, or closes one watch and
the process counts as stopped, or begins another process, for which none may count as running
(`Turn.outcome`).

All watches share the state of their supervisor, and a watch that notices the end of its process
does not look whose state it is. So a process that is started while the watch over an earlier one is
still open counts as running only until one of both notices an end (`Since`).
-/

namespace RLanguageHost

namespace Child

/-! ## Watches that are open -/

namespace Supervisor

/-- Whether the watch over a process waits for its end. -/
def isOpen (s : Supervisor) (n : Nat) : Bool :=
  (s.watch? n).any Watch.isOpen

variable {s s' s'' : Supervisor} {n : Nat}

theorem isOpen_iff : s.isOpen n ↔ ∃ w, s.watch? n = some w ∧ w.isOpen :=
  Option.any_eq_true _ _

theorem lt_length_of_isOpen (isOpen : s.isOpen n) : n < s.watches.length := by
  obtain ⟨w, watched, -⟩ := isOpen_iff.mp isOpen
  exact (List.getElem?_eq_some_iff.mp watched).1

theorem isOpen_modify {f : Watch → Watch}
    (same : ∀ w, s.watch? n = some w → (f w).isOpen = w.isOpen) (k : Nat) :
    (s.modify n f).isOpen k = s.isOpen k := by
  rw [isOpen, watch?_modify, isOpen]
  split
  · next here =>
    subst here
    cases watched : s.watch? n with
    | none => rfl
    | some w => exact same w watched
  · rfl

/-- The watch over a process that is started is open, and those that were open stay so. -/
theorem isOpen_started (s : Supervisor) (pid : Nat) (handled : Bool) (k : Nat) :
    (s.step (.started pid handled)).isOpen k ↔ s.isOpen k ∨ k = s.watches.length := by
  rw [isOpen, watch?, step]
  dsimp only
  rcases Nat.lt_trichotomy k s.watches.length with earlier | rfl | later
  · rw [List.getElem?_append_left (by simpa using earlier), List.getElem?_map, Option.any_map]
    simp only [Watch.isOpen_kill]
    exact (or_iff_left (Nat.ne_of_lt earlier)).symm
  · rw [List.getElem?_append_right (by simp)]
    simp [Watch.isOpen]
  · have closed : ¬ s.isOpen k := fun isOpen => Nat.lt_asymm later (lt_length_of_isOpen isOpen)
    rw [List.getElem?_eq_none (by simpa using Nat.succ_le_of_lt later)]
    simp [closed, Nat.ne_of_gt later]

/-! ## Turns -/

/-- What can happen to a supervisor while no call stops its process. A process is started only when
none counts as running. -/
inductive Turn (s : Supervisor) : Supervisor → Prop
  | started (free : s.state.isRunning = false) (pid : Nat) (handled : Bool) :
      Turn s (s.step (.started pid handled))
  | killed : Turn s (s.step .killAsked)
  | exited (n : Nat) (exit : Exit) : Turn s (s.step (.exited n exit))
  | drained (n : Nat) : Turn s (s.step (.drained n))
  | published (n : Nat) : Turn s (s.step (.publish n))

/-- Several turns, one after the other. -/
abbrev Turns : Supervisor → Supervisor → Prop :=
  Relation.ReflTransGen Turn

/-- What a turn comes to. -/
inductive Outcome (s s' : Supervisor) : Prop
  /-- The state and the open watches are the same. -/
  | quiet (state : s'.state = s.state) (length : s'.watches.length = s.watches.length)
      (same : ∀ k, s'.isOpen k = s.isOpen k)
  /-- A watch has noticed the end of its process. -/
  | closed (n : Nat) (wasOpen : s.isOpen n) (state : s'.state = .stopped)
      (length : s'.watches.length = s.watches.length)
      (others : ∀ k, s'.isOpen k ↔ s.isOpen k ∧ k ≠ n)
  /-- Another process was started. -/
  | begun (free : s.state.isRunning = false) (length : s'.watches.length = s.watches.length + 1)
      (before : ∀ k, k < s.watches.length → s'.isOpen k = s.isOpen k)

theorem Outcome.modify {f : Watch → Watch}
    (same : ∀ w, s.watch? n = some w → (f w).isOpen = w.isOpen) : Outcome s (s.modify n f) :=
  .quiet rfl (List.length_modify ..) (isOpen_modify same)

theorem Outcome.exited (s : Supervisor) (n : Nat) (exit : Exit) :
    Outcome s (s.step (.exited n exit)) := by
  rw [step]
  split
  · next wasOpen =>
    refine .closed n wasOpen rfl (List.length_modify ..) fun k => ?_
    show (s.modify n _).isOpen k ↔ _
    rw [isOpen, watch?_modify, isOpen]
    by_cases here : n = k
    · subst here
      rw [if_pos rfl, Option.any_map]
      cases s.watch? n <;> simp [Watch.isOpen]
    · rw [if_neg here]
      exact (and_iff_left (Ne.symm here)).symm
  · exact .quiet rfl rfl fun _ => rfl

theorem Turn.outcome (turn : Turn s s') : Outcome s s' := by
  cases turn with
  | started free pid handled =>
      refine .begun free (by simp [step]) fun k earlier => Bool.eq_iff_iff.mpr ?_
      rw [isOpen_started]
      exact or_iff_left (Nat.ne_of_lt earlier)
  | killed => exact .modify fun w _ => w.isOpen_kill
  | exited n exit => exact .exited s n exit
  | drained n =>
      rw [step]
      split
      · next exit ended =>
        refine .modify fun w watched => ?_
        rw [watched] at ended
        have closed := Watch.not_isOpen_of_draining (Option.some.inj ended)
        exact (Bool.eq_false_iff.mpr closed).symm
      · exact .quiet rfl rfl fun _ => rfl
  | published n =>
      rw [step]
      split
      · next exit ended =>
        refine .modify fun w watched => ?_
        rw [watched] at ended
        have closed := Watch.not_isOpen_of_reported (Option.some.inj ended)
        exact (Bool.eq_false_iff.mpr closed).symm
      · exact .quiet rfl rfl fun _ => rfl

/-! ## Since a start -/

/-- How a supervisor stands to what it was when its process began to count as running. -/
inductive Since (s₁ s : Supervisor) : Prop
  /-- The process still counts as running. -/
  | stands (state : s.state = s₁.state) (length : s.watches.length = s₁.watches.length)
      (same : ∀ k, s.isOpen k = s₁.isOpen k)
  /-- A watch that was open then, over this or an earlier process, has noticed an end. -/
  | fell (n : Nat) (wasOpen : s₁.isOpen n) (closed : s.isOpen n = false)
      (further : s.state = .stopped ∧ s.watches.length = s₁.watches.length ∨
        s₁.watches.length < s.watches.length)

variable {s₁ : Supervisor} {pid : Nat}

theorem Since.outcome (running : s₁.state = .running pid) (since : Since s₁ s)
    (outcome : Outcome s s') : Since s₁ s' := by
  cases since with
  | stands state length same =>
      cases outcome with
      | quiet state' length' same' =>
          exact .stands (state'.trans state) (length'.trans length) fun k =>
            (same' k).trans (same k)
      | closed n wasOpen state' length' others =>
          have closed : s'.isOpen n = false :=
            Bool.eq_false_iff.mpr fun isOpen => ((others n).mp isOpen).2 rfl
          exact .fell n (same n ▸ wasOpen) closed (.inl ⟨state', length'.trans length⟩)
      | begun free =>
          rw [state, running] at free
          cases free
  | fell n wasOpen closed further =>
      have early : n < s₁.watches.length := lt_length_of_isOpen wasOpen
      cases outcome with
      | quiet state' length' same' =>
          refine .fell n wasOpen ((same' n).trans closed) ?_
          rwa [state', length']
      | closed k _ state' length' others =>
          have closed' : s'.isOpen n = false := Bool.eq_false_iff.mpr fun isOpen => by
            rw [((others n).mp isOpen).1] at closed
            cases closed
          refine .fell n wasOpen closed' ?_
          rw [length']
          exact further.imp (fun same => ⟨state', same.2⟩) id
      | begun _ length' before =>
          have kept : s₁.watches.length ≤ s.watches.length :=
            further.elim (fun same => Nat.le_of_eq same.2.symm) Nat.le_of_lt
          exact .fell n wasOpen ((before n (Nat.lt_of_lt_of_le early kept)).trans closed)
            (.inr (length' ▸ Nat.lt_succ_of_le kept))

theorem Since.turns (running : s₁.state = .running pid) (turns : Turns s₁ s) : Since s₁ s := by
  induction turns with
  | refl => exact .stands rfl rfl fun _ => rfl
  | tail _ turn ih => exact ih.outcome running turn.outcome

/-- The process counts as running as long as no watch that was open when it was started has noticed
an end. -/
theorem Since.stands_iff (running : s₁.state = .running pid) (since : Since s₁ s) :
    s.state = .running pid ∧ s.watches.length = s₁.watches.length ↔
      ∀ n, s₁.isOpen n → s.isOpen n := by
  cases since with
  | stands state length same =>
      exact iff_of_true ⟨state.trans running, length⟩ fun n isOpen => (same n).trans isOpen
  | fell n wasOpen closed further =>
      refine iff_of_false ?_ fun lasts => Bool.false_ne_true (closed.symm.trans (lasts n wasOpen))
      rintro ⟨state, length⟩
      rcases further with ⟨stopped, -⟩ | longer
      · cases state.symm.trans stopped
      · exact Nat.ne_of_gt longer length

end Supervisor

/-! ## Keepers that do not stop -/

namespace Keeper

/-- The keeper has gone on, and no stop has begun or ended. -/
structure Goes (k k' : Keeper) : Prop where
  turns : k.supervisor.Turns k'.supervisor
  stopping : k'.stopping = k.stopping

variable {m m' : Machine} {k k' k'' : Keeper} {n : Nat}

theorem Goes.refl (k : Keeper) : k.Goes k :=
  ⟨.refl, rfl⟩

theorem Goes.trans (h : k.Goes k') (h' : k'.Goes k'') : k.Goes k'' :=
  ⟨h.turns.trans h'.turns, h'.stopping.trans h.stopping⟩

theorem Goes.single (turn : k.supervisor.Turn k'.supervisor) (stopping : k'.stopping = k.stopping) :
    k.Goes k' :=
  ⟨.single turn, stopping⟩

theorem goes_start (m : Machine) (k : Keeper) : k.Goes (k.start m).2.2 := by
  rcases start_cases m k with ⟨-, same⟩ | ⟨free, -, child, begun⟩
  · rw [same]
    exact .refl k
  · rw [begun]
    exact .single (.started free child.pid k.exitHandler) rfl

theorem goes_drop (m : Machine) (k : Keeper) : k.Goes (k.drop m).2 :=
  .single .killed rfl

theorem goes_takeChannel (k : Keeper) : k.Goes k.takeChannel.2 := by
  obtain ⟨kept, taken⟩ := k.takeChannel_eq
  rw [taken]
  exact ⟨.refl, rfl⟩

theorem goes_linkStep (step : k.linkStep m = some (m', k')) : k.Goes k' := by
  obtain ⟨kept, rfl⟩ := linkStep_eq step
  exact ⟨.refl, rfl⟩

theorem goes_pass (k : Keeper) (forwards : Bool) (lines : List Bytes) :
    k.Goes (k.pass forwards lines) := by
  cases forwards with
  | false => exact .refl k
  | true => exact ⟨.refl, rfl⟩

theorem goes_monitorStep (step : k.monitorStep m n = some (m', k')) : k.Goes k' := by
  have modified (f : Monitor → Monitor) : k.Goes (k.modify n f) := ⟨.refl, rfl⟩
  obtain ⟨o, pipe, -, -, ⟨bytes, m₁, -, rfl⟩ | ⟨-, rfl⟩⟩ := monitorStep_cases step
  · exact (modified _).trans (goes_pass ..)
  · exact (modified _).trans (goes_pass ..)

theorem goes_watchStep (step : k.watchStep m n = some (m', k')) : k.Goes k' := by
  rcases watchStep_cases step with ⟨exit, deadline, rfl⟩ | ⟨w, exit, -, -, rfl⟩ | ⟨-, rfl⟩
  · exact .single (.exited n exit) rfl
  · exact .single (.drained n) rfl
  · exact .single (.published n) rfl

theorem start_of_error {e : Error} (failed : (k.start m).1 = .error e) : (k.start m).2.2 = k := by
  rcases start_cases m k with ⟨-, same⟩ | ⟨-, started, -⟩
  · exact same
  · cases started.symm.trans failed

theorem beginStop_of_error {mode : StopMode} {e : Error}
    (failed : (k.beginStop m mode).1 = .error e) : (k.beginStop m mode).2.2 = k := by
  rcases beginStop_cases m k mode with ⟨-, same⟩ | ⟨begun, -⟩
  · exact same
  · cases begun.symm.trans failed

end Keeper

/-! ## Benches that do not stop -/

/-- Whether an act is a call that stops the process. -/
def Act.stops : Act → Bool
  | .stop .. | .killNow _ => true
  | _ => false

theorem Act.stops_of_not_isCall {a : Act} (goesOn : a.isCall = false) : a.stops = false := by
  cases a with
  | stop | killNow => cases goesOn
  | _ => rfl

namespace Bench

variable {m m' : Machine} {b b' : Bench} {child : Machine.Spawned} {acts : List Act}

theorem goes_move {next : Option (Machine × Keeper)}
    (goes : ∀ m k, next = some (m, k) → b.keeper.Goes k) : b.keeper.Goes (b.move next).keeper := by
  cases next with
  | none => exact .refl _
  | some step => exact goes step.1 step.2 rfl

theorem goes_single (idle : b.keeper.stopping = .idle) {a : Act} (single : a.waits = false)
    (calm : a.stops = false) : b.keeper.Goes (b.act a).keeper := by
  cases a with
  | install | finish i => exact ⟨.refl, rfl⟩
  | start m => exact Keeper.goes_start m b.keeper
  | stop | killNow => cases calm
  | drop m => exact Keeper.goes_drop m b.keeper
  | takeChannel => exact Keeper.goes_takeChannel b.keeper
  | link m => exact goes_move fun _ _ => Keeper.goes_linkStep
  | monitor m n => exact goes_move fun _ _ => Keeper.goes_monitorStep
  | watch m n => exact goes_move fun _ _ => Keeper.goes_watchStep
  | stopping m => exact goes_move fun _ _ step => absurd idle (Keeper.stopStep_cases step).1
  | wait => cases single

theorem goes_run_of_act {acts : List Act} (idle : b.keeper.stopping = .idle)
    (goes : ∀ {b : Bench} {a}, a ∈ acts → b.keeper.stopping = .idle →
      b.keeper.Goes (b.act a).keeper) : b.keeper.Goes (b.run acts).keeper := by
  induction acts generalizing b with
  | nil => exact .refl _
  | cons a acts ih =>
      have first := goes List.mem_cons_self idle
      exact first.trans (ih (first.stopping.trans idle) fun later => goes (.tail a later))

theorem goes_wait (m : Machine) (limit : Nat) (idle : b.keeper.stopping = .idle) :
    b.keeper.Goes (b.wait m limit).2.2.keeper := by
  obtain ⟨acts, goOn, keeper, -⟩ := leads_wait m b limit
  rw [← keeper]
  refine goes_run_of_act idle fun {b a} member idle => ?_
  have goesOn := goOn a member
  exact goes_single idle (Act.waits_of_not_isCall goesOn) (Act.stops_of_not_isCall goesOn)

theorem goes_run (idle : b.keeper.stopping = .idle) (calm : ∀ a ∈ acts, a.stops = false) :
    b.keeper.Goes (b.run acts).keeper := by
  refine goes_run_of_act idle fun {b a} member idle => ?_
  cases a with
  | wait m limit => exact goes_wait m limit idle
  | _ => exact goes_single idle rfl (calm _ member)

theorem act_start (free : b.keeper.isRunning = false)
    (spawned : m.spawn b.keeper.around b.keeper.plan = .ok (child, m')) :
    b.act (.start m) = { b with keeper := b.keeper.begun child } := by
  show { b with keeper := (b.keeper.start m).2.2 } = _
  rw [(Keeper.start_of_spawn free spawned).2]

theorem act_start_of_error {e : Error} (failed : (b.start m).1 = .error e) :
    b.act (.start m) = b := by
  show { b with keeper := (b.keeper.start m).2.2 } = b
  rw [Keeper.start_of_error failed]

theorem act_stop_of_error {mode : StopMode} {e : Error}
    (failed : (b.keeper.beginStop m mode).1 = .error e) : b.act (.stop m mode) = b := by
  rw [act, Keeper.beginStop_of_error failed]

/-- A process that is started counts as running at once. While no call stops it, it counts as
running exactly as long as none of the watches that are open then has noticed an end: its own, and
those over earlier processes. If none of these is open when it is started, it counts as running
until its own end is noticed. Calls that fail change nothing. -/
theorem counts_as_running_iff (free : b.keeper.isRunning = false)
    (idle : b.keeper.stopping = .idle)
    (spawned : m.spawn b.keeper.around b.keeper.plan = .ok (child, m'))
    (calm : ∀ a ∈ acts, a.stops = false) :
    let before := b.keeper.supervisor
    let begun := (b.act (.start m)).keeper.supervisor
    let later := ((b.act (.start m)).run acts).keeper.supervisor
    (b.start m).1 = .ok () ∧ begun.state = .running child.pid ∧
      (∀ n, begun.isOpen n ↔ before.isOpen n ∨ n = before.watches.length) ∧
      (later.state = .running child.pid ∧ later.watches.length = begun.watches.length ↔
        ∀ n, begun.isOpen n → later.isOpen n) ∧
      ((∀ n, ¬ before.isOpen n) → later.isOpen before.watches.length →
        later.state = .running child.pid) ∧
      (∀ (b : Bench) (m : Machine) (e : Error),
        (b.start m).1 = .error e → b.act (.start m) = b) ∧
      ∀ (b : Bench) (m : Machine) (mode : StopMode) (e : Error),
        (b.keeper.beginStop m mode).1 = .error e → b.act (.stop m mode) = b := by
  intro before begun later
  have started : (b.start m).1 = .ok () := (Keeper.start_of_spawn free spawned).1
  have act := act_start free spawned
  have new : begun = before.step (.started child.pid b.keeper.exitHandler) :=
    congrArg (·.keeper.supervisor) act
  have running : begun.state = .running child.pid := by rw [new]; rfl
  have opened (n : Nat) : begun.isOpen n ↔ before.isOpen n ∨ n = before.watches.length := by
    rw [new]
    exact Supervisor.isOpen_started before child.pid b.keeper.exitHandler n
  have still : (b.act (.start m)).keeper.stopping = .idle := by
    rw [act]
    exact idle
  have stands := (Supervisor.Since.turns running (goes_run still calm).turns).stands_iff running
  refine ⟨started, running, opened, stands, fun alone lasts => (stands.mpr fun n isOpen => ?_).1,
    fun _ _ _ => act_start_of_error, fun _ _ _ _ => act_stop_of_error⟩
  rcases (opened n).mp isOpen with earlier | rfl
  · exact absurd earlier (alone n)
  · exact lasts

/-! ### A process that is started in the place of another -/

/-- A bench that was told to kill its process, and whose watch has noticed nothing yet. -/
def killed : Bench :=
  (alone false).run [.start (oneProgram 7), .killNow {}]

theorem killed_eq : killed =
    ({ alone false with keeper := (alone false).keeper.begun ⟨7, some 2, some 3, 1⟩ } : Bench).act
      (.killNow {}) := by
  obtain ⟨m', spawned⟩ := spawn_oneProgram 7
  exact congrArg (·.act (.killNow {})) (act_start (b := alone false) rfl spawned)

theorem isRunning_killed : killed.keeper.isRunning = false := by
  rw [killed_eq]
  rfl

theorem spawn_killed :
    ∃ m', (oneProgram 8).spawn killed.keeper.around killed.keeper.plan =
      .ok (⟨8, some 2, some 3, 1⟩, m') := by
  rw [killed_eq]
  exact spawn_oneProgram 8

theorem start_killed : killed.act (.start (oneProgram 8)) =
    { killed with keeper := killed.keeper.begun ⟨8, some 2, some 3, 1⟩ } := by
  obtain ⟨m', spawned⟩ := spawn_killed
  exact act_start isRunning_killed spawned

/-- Another process is started while the watch over the first one is open. As long as the first one
is not found to have ended, the second one counts as running; when it is found, it does not. -/
theorem counts_as_running_iff_restarted :
    let b := killed.act (.start (oneProgram 8))
    let quiet := b.run [.watch {} 0]
    let noticed := b.run [.watch (oneKilled 7) 0]
    killed.keeper.supervisor.isOpen 0 ∧
      (quiet.keeper.supervisor.state = .running 8 ∧
        ∀ n, b.keeper.supervisor.isOpen n → quiet.keeper.supervisor.isOpen n) ∧
      ¬ (noticed.keeper.supervisor.state = .running 8 ∧
        noticed.keeper.supervisor.watches.length = b.keeper.supervisor.watches.length) := by
  intro b quiet noticed
  obtain ⟨m', spawned⟩ := spawn_killed
  have idle : killed.keeper.stopping = .idle := by rw [killed_eq]; rfl
  have isOpen : killed.keeper.supervisor.isOpen 0 := by rw [killed_eq]; rfl
  have same : quiet = b := by
    rw [show quiet = b.act (.watch {} 0) from rfl, show b = _ from start_killed, killed_eq]
    rfl
  have gone : ¬ noticed.keeper.supervisor.isOpen 0 := by
    rw [show noticed = b.act (.watch (oneKilled 7) 0) from rfl, show b = _ from start_killed,
      killed_eq]
    exact Bool.noConfusion
  have calm (m : Machine) : ∀ a ∈ [Act.watch m 0], a.stops = false := by simp [Act.stops]
  obtain ⟨-, -, opened, stands, -⟩ := counts_as_running_iff isRunning_killed idle spawned (calm {})
  obtain ⟨-, -, -, falls, -⟩ :=
    counts_as_running_iff isRunning_killed idle spawned (calm (oneKilled 7))
  have lasts : ∀ n, b.keeper.supervisor.isOpen n → quiet.keeper.supervisor.isOpen n := by
    rw [same]
    exact fun _ => id
  exact ⟨isOpen, ⟨(stands.mpr lasts).1, lasts⟩,
    fun counts => gone (falls.mp counts 0 ((opened 0).mpr (.inl isOpen)))⟩

/-- A process is killed and another one started in its place: when the watch over the first one
notices its end, the second one counts as stopped, although nothing has happened to it. -/
theorem counts_as_stopped_while_running :
    let b := (alone false).run [.start (oneProgram 7), .killNow {}, .start (oneProgram 8)]
    let later := b.act (.watch (oneKilled 7) 0)
    b.keeper.supervisor.state = .running 8 ∧ b.keeper.supervisor.isOpen 1 ∧
      later.keeper.supervisor.state = .stopped ∧ later.keeper.supervisor.isOpen 1 := by
  intro b later
  have begun : b = _ := start_killed
  have later_eq : later = b.act (.watch (oneKilled 7) 0) := rfl
  rw [later_eq, begun, killed_eq]
  exact ⟨rfl, rfl, rfl, rfl⟩

end Bench

end Child

end RLanguageHost
