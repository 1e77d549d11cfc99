import RLanguageHost.Proofs.Child.Moves

/-!
# Exits of child processes

A process ends, what it wrote is passed on, its exit is given to a handler, and when the handler has
come back the exit can be seen. A kill only brings the end about, and a process that is started
later has a watch of its own, so nothing gets into the way of this order: each exit is given to a
handler once at most, and who waits for an exit sees it after the handler has come back from it.

`Watch.Told` says what handlers have been given about a process, according to what its watch is at.
Every move keeps that (`Account.Sound.move`). A watch that nothing holds up takes its steps to the
end (`Bench.exit_comes_out`).
-/

namespace RLanguageHost.Child

/-! ## Supervisors -/

namespace Supervisor

variable {s : Supervisor} {w : Watch} {n : Nat} {exit : Exit}

@[simp] theorem watch?_modify (s : Supervisor) (n k : Nat) (f : Watch → Watch) :
    (s.modify n f).watch? k = if n = k then (s.watch? k).map f else s.watch? k := by
  rw [watch?, modify, List.getElem?_modify]
  split <;> simp [watch?]

theorem present?_eq (s : Supervisor) : s.present? = s.watch? (s.watches.length - 1) :=
  List.getLast?_eq_getElem?

theorem step_exited (watched : s.watch? n = some w) (isOpen : w.isOpen) (exit : Exit) :
    s.step (.exited n exit) =
      { s.modify n fun w => { w with phase := .draining exit } with state := .stopped } := by
  rw [step, watched]
  exact if_pos isOpen

theorem step_drained (watched : s.watch? n = some w) (ended : w.phase = .draining exit) :
    s.step (.drained n) = s.modify n fun w => { w with phase := .reported exit } := by
  rw [step, watched, Option.map_some, ended]

theorem step_publish (watched : s.watch? n = some w) (reported : w.phase = .reported exit) :
    s.step (.publish n) = s.modify n fun w => { w with phase := .published exit } := by
  rw [step, watched, Option.map_some, reported]

theorem watch?_advance (watched : s.watch? n = some w) (phase : Phase) :
    (s.modify n fun w => { w with phase }).watch? n = some { w with phase } := by
  rw [watch?_modify, if_pos rfl, watched]
  rfl

end Supervisor

namespace Watch

variable {w : Watch} {exit : Exit}

theorem isOpen_kill (w : Watch) : w.kill.isOpen = w.isOpen := by
  obtain ⟨pid, handled, phase⟩ := w
  cases phase <;> rfl

theorem handled_kill (w : Watch) : w.kill.handled = w.handled := by
  obtain ⟨pid, handled, phase⟩ := w
  cases phase <;> rfl

theorem phase_of_exit? (seen : w.exit? = some exit) : w.phase = .published exit := by
  unfold exit? at seen
  split at seen
  · next exit' published =>
    cases seen
    exact published
  · cases seen

theorem not_isOpen_of_draining (ended : w.phase = .draining exit) : ¬ w.isOpen := by
  rw [isOpen, ended]
  exact Bool.false_ne_true

theorem not_isOpen_of_reported (ended : w.phase = .reported exit) : ¬ w.isOpen := by
  rw [isOpen, ended]
  exact Bool.false_ne_true

theorem not_isOpen_of_published (ended : w.phase = .published exit) : ¬ w.isOpen := by
  rw [isOpen, ended]
  exact Bool.false_ne_true

end Watch

/-- A process that counts as running has not ended, and before the first start there is none. -/
structure Supervisor.Upright (s : Supervisor) : Prop where
  running : s.state.isRunning → ∃ w, s.present? = some w ∧ w.isOpen
  started : s.state = .notStarted → s.watches = []

namespace Supervisor

variable {s : Supervisor} {n : Nat} {f : Watch → Watch}

theorem Upright.modify (upright : s.Upright)
    (stays : ∀ w, s.watch? n = some w → w.isOpen → (f w).isOpen) : (s.modify n f).Upright where
  running := by
    intro runs
    obtain ⟨w, present, isOpen⟩ := upright.running runs
    have length : (s.modify n f).watches.length = s.watches.length := List.length_modify ..
    rw [present?_eq] at present
    rw [present?_eq, length, watch?_modify]
    split
    · next last =>
      rw [present]
      exact ⟨f w, rfl, stays w (last ▸ present) isOpen⟩
    · exact ⟨w, present, isOpen⟩
  started := by
    intro never
    rw [Supervisor.modify, upright.started never, List.modify_nil]

/-- No process runs after an end. -/
theorem upright_of_stopped (watches : List Watch) : Upright { state := .stopped, watches } where
  running := Bool.noConfusion
  started := State.noConfusion

theorem Upright.step (upright : s.Upright) (event : Event) : (s.step event).Upright := by
  cases event with
  | started pid handled =>
      exact ⟨fun _ => ⟨{ pid, handled }, List.getLast?_concat, rfl⟩, State.noConfusion⟩
  | killAsked =>
      refine upright.modify fun w _ isOpen => ?_
      rwa [Watch.isOpen_kill]
  | exited n exit =>
      rw [Supervisor.step]
      split
      · exact upright_of_stopped _
      · exact upright
  | drained n =>
      rw [Supervisor.step]
      split
      · next exit ended =>
        refine upright.modify fun w watched isOpen => ?_
        rw [watched] at ended
        exact absurd isOpen (Watch.not_isOpen_of_draining (Option.some.inj ended))
      · exact upright
  | publish n =>
      rw [Supervisor.step]
      split
      · next exit ended =>
        refine upright.modify fun w watched isOpen => ?_
        rw [watched] at ended
        exact absurd isOpen (Watch.not_isOpen_of_reported (Option.some.inj ended))
      · exact upright
  | settled => exact upright_of_stopped _

end Supervisor

/-! ## What handlers are told -/

namespace Watch

variable {w : Watch} {n : Nat} {heard given before after : List Notice} {notice : Notice}

/-- What handlers have come back from and what they have been given about a process, according to
what its watch is at. -/
def Told (w : Watch) (n : Nat) (heard given : List Notice) : Prop :=
  match w.phase with
  | .waiting | .killing | .draining _ => heard = [] ∧ given = []
  | .reported exit => heard ++ given = w.told n exit
  | .published exit => heard = w.told n exit ∧ given = []

theorem told_kill : w.kill.Told n heard given ↔ w.Told n heard given := by
  obtain ⟨pid, handled, phase⟩ := w
  cases phase <;> rfl

theorem filter_told (w : Watch) (n k : Nat) (exit : Exit) :
    (w.told n exit).filter (·.isExitOf k) = if n = k then w.told n exit else [] := by
  unfold told
  cases w.handled <;> by_cases same : n = k <;> simp [Notice.isExitOf, same]

theorem Told.nothing_of_draining {exit : Exit} (told : w.Told n heard given)
    (ended : w.phase = .draining exit) : heard = [] ∧ given = [] := by
  rwa [Told, ended] at told

theorem Told.eq_of_reported {exit : Exit} (told : w.Told n heard given)
    (ended : w.phase = .reported exit) : heard ++ given = w.told n exit := by
  rwa [Told, ended] at told

theorem Told.eq_of_published {exit : Exit} (told : w.Told n heard given)
    (ended : w.phase = .published exit) : heard = w.told n exit := by
  rw [Told, ended] at told
  exact told.1

theorem length_told_le (w : Watch) (n : Nat) (exit : Exit) : (w.told n exit).length ≤ 1 := by
  unfold told
  split
  · exact Nat.le_refl 1
  · exact Nat.zero_le 1

theorem Told.length_le (told : w.Told n heard given) : (heard ++ given).length ≤ 1 := by
  cases stage : w.phase with
  | waiting | killing | draining =>
      rw [Told, stage] at told
      rw [told.1, told.2]
      exact Nat.zero_le 1
  | reported exit =>
      rw [told.eq_of_reported stage]
      exact length_told_le w n exit
  | published exit =>
      rw [Told, stage] at told
      rw [told.1, told.2, List.append_nil]
      exact length_told_le w n exit

theorem Told.nothing_of_isOpen (told : w.Told n heard given) (isOpen : w.isOpen) :
    heard = [] ∧ given = [] := by
  obtain ⟨pid, handled, phase⟩ := w
  cases phase with
  | waiting | killing => exact told
  | draining | reported | published => cases isOpen

/-- A handler comes back. -/
theorem Told.finish (told : w.Told n heard (before ++ notice :: after)) :
    w.Told n (heard ++ [notice]) (before ++ after) := by
  obtain ⟨pid, handled, phase⟩ := w
  cases phase with
  | waiting | killing | draining => exact absurd told.2 (by simp)
  | reported exit =>
      cases handled with
      | false => exact absurd told (by simp [Told, Watch.told])
      | true =>
          obtain ⟨rfl, all⟩ := (List.append_eq_singleton_iff.mp told).resolve_right (by simp)
          obtain ⟨rfl, last⟩ := (List.append_eq_singleton_iff.mp all).resolve_right (by simp)
          exact last
  | published exit => exact absurd told.2 (by simp)

end Watch

namespace Account

variable {a b : Account} {n : Nat} {w : Watch} {f : Watch → Watch}

/-- The reports on the exit of a process that handlers have come back from. -/
def heardOf (a : Account) (n : Nat) : List Notice :=
  a.heard.filter (·.isExitOf n)

/-- The reports on the exit of a process that handlers have not come back from. -/
def givenOf (a : Account) (n : Nat) : List Notice :=
  a.given.filter (·.isExitOf n)

theorem givenOf_give (a : Account) (notices : List Notice) (n : Nat) :
    (a.give notices).givenOf n = a.givenOf n ++ notices.filter (·.isExitOf n) :=
  List.filter_append ..

/-- Nothing has been reported before its time. -/
structure Sound (a : Account) : Prop where
  upright : a.supervisor.Upright
  told {n : Nat} {w : Watch} :
    a.supervisor.watch? n = some w → w.Told n (a.heardOf n) (a.givenOf n)
  silent {n : Nat} : a.supervisor.watch? n = none → a.heardOf n = [] ∧ a.givenOf n = []

/-- The watch over one process goes on, and nothing is reported about others. -/
theorem Sound.modify (sound : a.Sound) (upright : b.supervisor.Upright)
    (watches : b.supervisor.watches = a.supervisor.watches.modify n f)
    (told : ∀ w, a.supervisor.watch? n = some w → (f w).Told n (b.heardOf n) (b.givenOf n))
    (others : ∀ k, n ≠ k ∨ a.supervisor.watch? k = none →
      b.heardOf k = a.heardOf k ∧ b.givenOf k = a.givenOf k) : b.Sound := by
  have watch? (k : Nat) : b.supervisor.watch? k =
      if n = k then (a.supervisor.watch? k).map f else a.supervisor.watch? k := by
    rw [← Supervisor.watch?_modify, Supervisor.watch?, watches]
    rfl
  refine ⟨upright, fun {k w} watched => ?_, fun {k} none => ?_⟩
  · rw [watch?] at watched
    split at watched
    · next same =>
      subst same
      obtain ⟨w, before, rfl⟩ := Option.map_eq_some_iff.mp watched
      exact told w before
    · next other =>
      rw [(others k (.inl other)).1, (others k (.inl other)).2]
      exact sound.told watched
  · rw [watch?] at none
    have none : a.supervisor.watch? k = .none := by
      split at none
      · exact Option.map_eq_none_iff.mp none
      · exact none
    rw [(others k (.inr none)).1, (others k (.inr none)).2]
    exact sound.silent none

theorem Sound.tell_started (sound : a.Sound) (pid : Nat) (handled : Bool) :
    (a.tell (.started pid handled)).Sound := by
  have watch? (k : Nat) : (a.tell (.started pid handled)).supervisor.watch? k =
      (a.supervisor.watches.map Watch.kill ++ [({ pid, handled } : Watch)])[k]? := rfl
  refine ⟨sound.upright.step (.started pid handled), fun {k w} watched => ?_, fun {k} none => ?_⟩
  · rw [watch?] at watched
    rcases Nat.lt_or_ge k a.supervisor.watches.length with old | new
    · rw [List.getElem?_append_left (by simpa using old), List.getElem?_map] at watched
      obtain ⟨w, before, rfl⟩ := Option.map_eq_some_iff.mp watched
      exact Watch.told_kill.mpr (sound.told before)
    · rw [List.getElem?_append_right (by simpa using new)] at watched
      obtain rfl := List.mem_singleton.mp (List.mem_of_getElem? watched)
      exact sound.silent (List.getElem?_eq_none new)
  · rw [watch?, List.getElem?_eq_none_iff, List.length_append, List.length_map] at none
    exact sound.silent (List.getElem?_eq_none (by omega))

theorem Sound.tell_killAsked (sound : a.Sound) : (a.tell .killAsked).Sound :=
  sound.modify (sound.upright.step .killAsked) rfl
    (fun _ watched => Watch.told_kill.mpr (sound.told watched)) fun _ _ => ⟨rfl, rfl⟩

theorem Sound.tell_exited (sound : a.Sound) (n : Nat) (exit : Exit) :
    (a.tell (.exited n exit)).Sound := by
  have upright := sound.upright.step (.exited n exit)
  revert upright
  rw [tell, Supervisor.step]
  split
  · next isOpen =>
    refine fun upright => sound.modify upright rfl (fun w watched => ?_) fun _ _ => ⟨rfl, rfl⟩
    rw [watched] at isOpen
    exact (sound.told watched).nothing_of_isOpen isOpen
  · exact fun _ => sound

theorem Sound.reported (sound : a.Sound) {exit : Exit} (watched : a.supervisor.watch? n = some w)
    (ended : w.phase = .draining exit) : ((a.tell (.drained n)).give (w.told n exit)).Sound := by
  have upright := sound.upright.step (.drained n)
  rw [Supervisor.step_drained watched ended] at upright
  rw [tell, Supervisor.step_drained watched ended]
  refine sound.modify upright rfl (fun w' watched' => ?_) fun k other => ?_
  · cases watched.symm.trans watched'
    obtain ⟨heard, given⟩ := (sound.told watched).nothing_of_draining ended
    show a.heardOf n ++ _ = w.told n exit
    rw [givenOf_give, Watch.filter_told, if_pos rfl, heard]
    show [] ++ (a.givenOf n ++ _) = _
    rw [given]
    rfl
  · rw [givenOf_give, Watch.filter_told, if_neg, List.append_nil]
    · exact ⟨rfl, rfl⟩
    · rintro rfl
      rcases other with different | none
      · exact different rfl
      · cases watched.symm.trans none

theorem Sound.tell_publish (sound : a.Sound) (free : a.givenOf n = []) :
    (a.tell (.publish n)).Sound := by
  have upright := sound.upright.step (.publish n)
  revert upright
  rw [tell, Supervisor.step]
  split
  · next exit ended =>
    refine fun upright => sound.modify upright rfl (fun w watched => ?_) fun _ _ => ⟨rfl, rfl⟩
    rw [watched] at ended
    have told := (sound.told watched).eq_of_reported (Option.some.inj ended)
    rw [free, List.append_nil] at told
    exact ⟨told, free⟩
  · exact fun _ => sound

theorem Sound.tell_settled (sound : a.Sound) : (a.tell .settled).Sound :=
  ⟨sound.upright.step .settled, sound.told, sound.silent⟩

theorem Sound.passed (sound : a.Sound) (lines : List String) :
    (a.give (lines.map .line)).Sound := by
  have same (n : Nat) : (a.give (lines.map .line)).givenOf n = a.givenOf n := by
    rw [givenOf_give]
    simp [Notice.isExitOf]
  refine ⟨sound.upright, fun {n w} watched => ?_, fun {n} none => ?_⟩
  · rw [same]
    exact sound.told watched
  · rw [same]
    exact sound.silent none

theorem Sound.finished (sound : a.Sound) {before after : List Notice} {notice : Notice}
    (lasting : a.given = before ++ notice :: after) :
    Sound { a with given := before ++ after, heard := a.heard ++ [notice] } := by
  have given (k : Nat) : a.givenOf k =
      before.filter (·.isExitOf k) ++ (notice :: after).filter (·.isExitOf k) := by
    rw [givenOf, lasting, List.filter_append]
  refine ⟨sound.upright, fun {k w} watched => ?_, fun {k} none => ?_⟩
  · have told := sound.told watched
    rw [given] at told
    rw [heardOf, givenOf, List.filter_append, List.filter_append]
    by_cases listed : notice.isExitOf k
    · rw [List.filter_cons_of_pos listed] at told ⊢
      exact told.finish
    · rw [List.filter_cons_of_neg listed] at told ⊢
      rwa [List.filter_nil, List.append_nil]
  · obtain ⟨heard, nothing⟩ := sound.silent none
    rw [given, List.append_eq_nil_iff] at nothing
    have unlisted : ¬ notice.isExitOf k := List.filter_eq_nil_iff.mp nothing.2 _ List.mem_cons_self
    rw [List.filter_cons_of_neg unlisted] at nothing
    rw [heardOf, givenOf, List.filter_append, List.filter_append, List.filter_cons_of_neg unlisted]
    exact ⟨by rw [List.filter_nil, List.append_nil]; exact heard, by rw [nothing.1, nothing.2]; rfl⟩

theorem Sound.move (sound : a.Sound) (move : Move a b) : b.Sound := by
  cases move with
  | installed => exact ⟨sound.upright, sound.told, sound.silent⟩
  | started pid => exact sound.tell_started pid a.handles
  | killed => exact sound.tell_killAsked
  | exited n exit => exact sound.tell_exited n exit
  | reported watched ended => exact sound.reported watched ended
  | published free => exact sound.tell_publish free
  | settled => exact sound.tell_settled
  | passed lines => exact sound.passed lines
  | finished lasting => exact sound.finished lasting

theorem Sound.moves (sound : a.Sound) (moves : Moves a b) : b.Sound := by
  induction moves with
  | refl => exact sound
  | tail _ move ih => exact ih.move move

end Account

/-! ## Handlers that are there from the beginning -/

/-- A handler for exits is installed, and one gets the exit of each process. -/
structure Account.Attended (a : Account) : Prop where
  handles : a.handles = true
  handled : ∀ w ∈ a.supervisor.watches, w.handled

theorem Supervisor.handled_modify {s : Supervisor} (handled : ∀ w ∈ s.watches, w.handled)
    (f : Watch → Watch) (keeps : ∀ w, (f w).handled = w.handled) (n : Nat) :
    ∀ w ∈ (s.modify n f).watches, w.handled := by
  intro w member
  obtain ⟨k, watched⟩ := List.mem_iff_getElem?.mp member
  rw [show (s.modify n f).watches[k]? = _ from watch?_modify s n k f] at watched
  split at watched
  · obtain ⟨w, before, rfl⟩ := Option.map_eq_some_iff.mp watched
    rw [keeps]
    exact handled w (List.mem_of_getElem? before)
  · exact handled w (List.mem_of_getElem? watched)

namespace Account

variable {a b : Account}

theorem Attended.move (attended : a.Attended) (move : Move a b) : b.Attended := by
  obtain ⟨handles, handled⟩ := attended
  have advanced (n : Nat) (phase : Phase) :
      ∀ w ∈ (a.supervisor.modify n fun w => { w with phase }).watches, w.handled :=
    Supervisor.handled_modify handled (fun w => { w with phase }) (fun _ => rfl) n
  cases move with
  | installed => exact ⟨rfl, handled⟩
  | started pid =>
      refine ⟨handles, fun w member => ?_⟩
      rcases List.mem_append.mp member with old | new
      · obtain ⟨w, before, rfl⟩ := List.mem_map.mp old
        rw [Watch.handled_kill]
        exact handled w before
      · rw [List.mem_singleton.mp new]
        exact handles
  | killed => exact ⟨handles, Supervisor.handled_modify handled Watch.kill Watch.handled_kill _⟩
  | exited n exit =>
      refine ⟨handles, ?_⟩
      rw [tell, Supervisor.step]
      split
      · exact advanced n _
      · exact handled
  | @reported n w exit watched ended =>
      refine ⟨handles, ?_⟩
      rw [tell, Supervisor.step_drained watched ended]
      exact advanced n _
  | @published n free =>
      refine ⟨handles, ?_⟩
      rw [tell, Supervisor.step]
      split
      · exact advanced n _
      · exact handled
  | settled | passed | finished => exact ⟨handles, handled⟩

theorem Attended.moves (attended : a.Attended) (moves : Moves a b) : b.Attended := by
  induction moves with
  | refl => exact attended
  | tail _ move ih => exact ih.move move

end Account

/-! ## Who waits for an exit -/

namespace Bench

/-- The calls of a handler with the exit of a process, those that last included. -/
def calls (b : Bench) (n : Nat) : List Notice :=
  (b.heard ++ b.keeper.notices).filter (·.isExitOf n)

/-- The handler of the present process, if there is one, has come back from an exit, and the process
does not count as running. -/
def HasHeard (b : Bench) (exit : Exit) : Prop :=
  ∃ w, b.keeper.supervisor.present? = some w ∧
    (w.handled → .exited (b.keeper.supervisor.watches.length - 1) exit ∈ b.heard) ∧
    b.keeper.supervisor.state = .stopped

variable {m : Machine} {b : Bench} {exit : Exit}

theorem sound_fresh (plan : Machine.Plan) (around : Machine.Surroundings) (grace : Nat)
    (handler exitHandler : Bool) : (fresh plan around grace handler exitHandler).account.Sound where
  upright := ⟨Bool.noConfusion, fun _ => rfl⟩
  told := by
    intro n w watched
    cases watched
  silent _ := ⟨rfl, rfl⟩

theorem length_calls_le (sound : b.account.Sound) (n : Nat) : (b.calls n).length ≤ 1 := by
  have split : b.calls n = b.account.heardOf n ++ b.account.givenOf n := List.filter_append ..
  rw [split]
  cases watched : b.account.supervisor.watch? n with
  | none =>
      obtain ⟨heard, given⟩ := sound.silent watched
      rw [heard, given]
      exact Nat.zero_le 1
  | some w => exact Watch.Told.length_le (sound.told watched)

/-- An exit that is published was heard before, if there is a handler for it. -/
theorem mem_heard_of_published (sound : b.account.Sound) {n : Nat} {w : Watch}
    (watched : b.keeper.supervisor.watch? n = some w) (published : w.phase = .published exit)
    (handled : w.handled) : .exited n exit ∈ b.heard := by
  have heard := (sound.told watched).eq_of_published published
  rw [Watch.told, if_pos handled] at heard
  exact (List.mem_filter.mp (heard ▸ List.mem_singleton_self _)).1

theorem hasHeard_of_exit? (sound : b.account.Sound) (seen : b.keeper.supervisor.exit? = some exit) :
    b.HasHeard exit := by
  obtain ⟨w, present, seen⟩ := Option.bind_eq_some_iff.mp seen
  have published := Watch.phase_of_exit? seen
  refine ⟨w, present, ?_, ?_⟩
  · exact mem_heard_of_published sound ((Supervisor.present?_eq _).symm.trans present) published
  · cases standing : b.keeper.supervisor.state with
    | notStarted =>
        have none : b.keeper.supervisor.watches = [] := sound.upright.started standing
        rw [Supervisor.present?, none] at present
        cases present
    | running pid =>
        obtain ⟨w', present', isOpen⟩ := sound.upright.running (by
          rw [show b.account.supervisor.state = _ from standing]
          rfl)
        cases present.symm.trans present'
        exact absurd isOpen (Watch.not_isOpen_of_published published)
    | stopped => rfl

theorem exit?_of_wait {limit : Nat} (seen : (b.wait m limit).1 = some exit) :
    (b.wait m limit).2.2.keeper.supervisor.exit? = some exit := by
  unfold wait at seen ⊢
  generalize host.await _ limit m b = outcome at seen ⊢
  obtain ⟨m', b'⟩ := outcome
  split at seen
  · cases seen
  · next started =>
    rw [if_neg started]
    exact seen

/-- Whatever happens on a bench and on its machine, the exit of each process is given to a handler
once at most, and a call that waits for the exit sees it only after the handler has come back from
it, when the process does not count as running any more. -/
theorem exits_are_heard_first (plan : Machine.Plan) (around : Machine.Surroundings) (grace : Nat)
    (handler exitHandler : Bool) (acts : List Act) :
    let b := (fresh plan around grace handler exitHandler).run acts
    (exitHandler → ∀ w ∈ b.keeper.supervisor.watches, w.handled) ∧
      (∀ n, (b.calls n).length ≤ 1) ∧
      (∀ exit, b.keeper.supervisor.exit? = some exit → b.HasHeard exit) ∧
      ∀ m limit exit, (b.wait m limit).1 = some exit → (b.wait m limit).2.2.HasHeard exit := by
  intro b
  have moves : Moves _ b.account := moves_run (fresh plan around grace handler exitHandler) acts
  have sound := (sound_fresh plan around grace handler exitHandler).moves moves
  refine ⟨fun installed => ?_, length_calls_le sound, fun exit => hasHeard_of_exit? sound,
    fun m limit exit seen => ?_⟩
  · have attended : (fresh plan around grace handler exitHandler).account.Attended :=
      ⟨installed, fun _ member => by cases member⟩
    exact (attended.moves moves).handled
  · exact hasHeard_of_exit? (sound.moves (moves_wait m b limit)) (exit?_of_wait seen)

/-! ## Exits that come out -/

variable {m' late : Machine} {n word : Nat} {w : Watch}

theorem act_watch {k : Keeper} (step : b.keeper.watchStep m n = some (m', k)) :
    b.act (.watch m n) = { b with keeper := k } := by
  rw [act, step]
  rfl

/-- A watch takes notice of the end of its process. -/
theorem act_watch_of_reap (watched : b.keeper.supervisor.watch? n = some w) (isOpen : w.isOpen)
    (reaped : m.reap w.pid = some (word, m'))
    (waited : m'.clock + Keeper.drainTime ≤ late.clock) :
    ∃ k, b.act (.watch m n) = { b with keeper := k } ∧ k.notices = b.keeper.notices ∧
      k.supervisor.watch? n =
        some { w with phase := .draining (Exit.ofStatus (some w.pid) word) } ∧
      k.monitors[n]?.all fun o => o.pipe.isNone || o.deadline.any (· ≤ late.clock) := by
  have step : b.keeper.watchStep m n =
      some (m', (b.keeper.modify n fun o =>
          { o with deadline := some (m'.clock + Keeper.drainTime) }).tell
        (.exited n (Exit.ofStatus (some w.pid) word))) := by
    refine Option.bind_eq_some_iff.mpr ⟨w, watched, ?_⟩
    obtain ⟨pid, handled, phase⟩ := w
    cases phase with
    | waiting | killing => exact Option.bind_eq_some_iff.mpr ⟨(word, m'), reaped, rfl⟩
    | draining | reported | published => cases isOpen
  refine ⟨_, act_watch step, rfl, ?_, ?_⟩
  · show (b.keeper.supervisor.step _).watch? n = _
    rw [Supervisor.step_exited watched isOpen]
    exact Supervisor.watch?_advance watched _
  · show Option.all _ (b.keeper.monitors.modify n _)[n]? = true
    rw [List.getElem?_modify_eq]
    cases b.keeper.monitors[n]? with
    | none => rfl
    | some o =>
        have passed : (some (m'.clock + Keeper.drainTime)).any (· ≤ late.clock) := by
          rw [Option.any_some]
          exact decide_eq_true waited
        show (o.pipe.isNone || Option.any _ (some (m'.clock + Keeper.drainTime))) = true
        rw [passed, Bool.or_true]

/-- A watch that has waited for what its process wrote reports the exit. -/
theorem act_watch_of_draining (watched : b.keeper.supervisor.watch? n = some w)
    (ended : w.phase = .draining exit)
    (passed : b.keeper.monitors[n]?.all fun o =>
      o.pipe.isNone || o.deadline.any (· ≤ m.clock)) :
    ∃ k, b.act (.watch m n) = { b with keeper := k } ∧
      k.notices = b.keeper.notices ++ w.told n exit ∧
      k.supervisor.watch? n = some { w with phase := .reported exit } := by
  have step : b.keeper.watchStep m n = some (m, { b.keeper.tell (.drained n) with
      notices := b.keeper.notices ++ w.told n exit }) := by
    obtain ⟨pid, handled, phase⟩ := w
    cases ended
    rw [Keeper.watchStep, watched]
    exact if_pos passed
  refine ⟨_, act_watch step, rfl, ?_⟩
  show (b.keeper.supervisor.step _).watch? n = _
  rw [Supervisor.step_drained watched ended]
  exact Supervisor.watch?_advance watched _

/-- A watch whose handler has come back publishes the exit. -/
theorem act_watch_of_reported (watched : b.keeper.supervisor.watch? n = some w)
    (reported : w.phase = .reported exit) (free : b.keeper.notices.filter (·.isExitOf n) = []) :
    (b.act (.watch m n)).keeper.supervisor.watch? n = some { w with phase := .published exit } := by
  have free : ¬ b.keeper.notices.any (·.isExitOf n) := by simpa using free
  have step : b.keeper.watchStep m n = some (m, b.keeper.tell (.publish n)) := by
    obtain ⟨pid, handled, phase⟩ := w
    cases reported
    rw [Keeper.watchStep, watched]
    exact if_neg free
  rw [act_watch step]
  show (b.keeper.supervisor.step _).watch? n = _
  rw [Supervisor.step_publish watched reported]
  exact Supervisor.watch?_advance watched _

/-- A handler that was called last comes back. -/
theorem eraseIdx_append_told (notices : List Notice) (w : Watch) (n : Nat) (exit : Exit) :
    (notices ++ w.told n exit).eraseIdx notices.length = notices := by
  have last : (w.told n exit).eraseIdx 0 = [] := by
    unfold Watch.told
    split <;> rfl
  rw [List.eraseIdx_append_of_length_le (Nat.le_refl _), Nat.sub_self, last, List.append_nil]

/-- The watch of a process that has ended goes on, the time for what it wrote passes, and the
handler comes back: the exit is published. -/
theorem watch?_run_of_reap (sound : b.account.Sound)
    (watched : b.keeper.supervisor.watch? n = some w) (isOpen : w.isOpen)
    (reaped : m.reap w.pid = some (word, m')) (waited : m'.clock + Keeper.drainTime ≤ late.clock) :
    let acts := [.watch m n, .watch late n, .finish b.keeper.notices.length, .watch late n]
    (b.run acts).keeper.supervisor.watch? n =
      some { w with phase := .published (Exit.ofStatus (some w.pid) word) } := by
  intro acts
  have free : b.keeper.notices.filter (·.isExitOf n) = [] :=
    ((sound.told watched).nothing_of_isOpen isOpen).2
  obtain ⟨k, first, kept, draining, passed⟩ := act_watch_of_reap watched isOpen reaped waited
  obtain ⟨k', second, given, reported⟩ :=
    act_watch_of_draining (b := { b with keeper := k }) draining rfl passed
  have all : k'.notices = b.keeper.notices ++ w.told n (Exit.ofStatus (some w.pid) word) :=
    given.trans (congrArg (· ++ _) kept)
  have finished : k'.notices.eraseIdx b.keeper.notices.length = b.keeper.notices := by
    rw [all, eraseIdx_append_told]
  have ran : b.run acts =
      (({ b with keeper := k' } : Bench).act (.finish b.keeper.notices.length)).act
        (.watch late n) := by
    rw [show b.run acts = (((b.act (.watch m n)).act (.watch late n)).act (.finish _)).act
      (.watch late n) from rfl, first, second]
  have free' : (k'.notices.eraseIdx b.keeper.notices.length).filter (·.isExitOf n) = [] := by
    rw [finished]
    exact free
  have published := act_watch_of_reported (m := late)
    (b := ({ b with keeper := k' } : Bench).act (.finish b.keeper.notices.length)) reported rfl
    free'
  rw [ran]
  exact published

/-- When a process has ended, its exit comes out, whatever has happened before: it is published and
was heard before that, and whoever waits for the exit of the latest process is given it. -/
theorem exit_comes_out (plan : Machine.Plan) (around : Machine.Surroundings) (grace : Nat)
    (handler exitHandler : Bool) (before : List Act) :
    let b := (fresh plan around grace handler exitHandler).run before
    b.keeper.supervisor.watch? n = some w → w.isOpen → m.reap w.pid = some (word, m') →
      m'.clock + Keeper.drainTime ≤ late.clock →
    let exit := Exit.ofStatus (some w.pid) word
    let ended := b.run [.watch m n, .watch late n, .finish b.keeper.notices.length, .watch late n]
    ended.keeper.supervisor.watch? n = some { w with phase := .published exit } ∧
      (w.handled → .exited n exit ∈ ended.heard) ∧
      (n = ended.keeper.supervisor.watches.length - 1 →
        ended.keeper.supervisor.exit? = some exit) := by
  intro b watched isOpen reaped waited exit ended
  have sound : b.account.Sound := (sound_fresh plan around grace handler exitHandler).moves
    (moves_run _ before)
  have published : ended.keeper.supervisor.watch? n = some { w with phase := .published exit } :=
    watch?_run_of_reap sound watched isOpen reaped waited
  refine ⟨published, fun handled => ?_, fun latest => ?_⟩
  · exact mem_heard_of_published (sound.moves (moves_run b _)) published rfl handled
  · rw [Supervisor.exit?, Supervisor.present?_eq, ← latest, published]
    rfl

/-! ### A process that is killed -/

/-- A bench whose process is the program of a machine with one. -/
def alone (handler : Bool) : Bench :=
  fresh { program := "/r" } { directory := ⟨[FilePath.slash]⟩ } 2000000 handler true

def oneProgram (nextPid : Nat) : Machine :=
  { tree := ({} : FileTree).put [bytesOf "r"] (.file Machine.mark true), nextPid }

/-- A machine with one process, which has been killed. -/
def oneKilled (pid : Nat) : Machine :=
  { procs := [{ pid, parent := Machine.hostPid, program := .tool (.print [] 0), directory := []
                ended := some 9 }] }

theorem spawn_oneProgram (nextPid : Nat) :
    ∃ m', (oneProgram nextPid).spawn { directory := ⟨[FilePath.slash]⟩ } { program := "/r" } =
      .ok (⟨nextPid, some 2, some 3, 1⟩, m') := by
  have clean : Machine.hasNul "/r" = false := by
    rw [Machine.hasNul, String.contains_char_eq]
    decide
  have placed : (oneProgram nextPid).startDirectory ⟨[FilePath.slash]⟩ none = .ok [] := rfl
  have found : (oneProgram nextPid).findImage [] Machine.defaultSearchPath "/r" ["/r"] =
      .ok ⟨"r", ["/r"]⟩ := by
    rw [Machine.findImage, if_neg (by decide), if_pos (by rw [String.contains_char_eq]; decide)]
    rfl
  refine ⟨?_, ?_⟩
  rotate_left
  · rw [Machine.spawn, if_neg (by simp [clean]), placed]
    show Except.bind (Except.mapError Failure.system
      ((oneProgram nextPid).findImage [] Machine.defaultSearchPath "/r" ["/r"])) _ = _
    rw [found]
    rfl

theorem keeper_start_oneProgram (handler : Bool) :
    ((alone handler).run [.start (oneProgram 7)]).keeper =
      (alone handler).keeper.begun ⟨7, some 2, some 3, 1⟩ := by
  obtain ⟨m', spawned⟩ := spawn_oneProgram 7
  exact (Keeper.start_of_spawn (k := (alone handler).keeper) rfl spawned).2

/-- A process is started and killed: the handler hears its exit, and it is published. -/
theorem exit_comes_out_killed :
    let ended := (alone false).run [.start (oneProgram 7), .watch (oneKilled 7) 0,
      .watch { clock := Keeper.drainTime } 0, .finish 0, .watch { clock := Keeper.drainTime } 0]
    .exited 0 (Exit.ofStatus (some 7) 9) ∈ ended.heard ∧
      ended.keeper.supervisor.watch? 0 = some
        { pid := 7, handled := true, phase := .published (Exit.ofStatus (some 7) 9) } := by
  intro ended
  have started := keeper_start_oneProgram false
  have watched : ((alone false).run [.start (oneProgram 7)]).keeper.supervisor.watch? 0 =
      some { pid := 7, handled := true } := by
    rw [started]
    rfl
  have silent : ((alone false).run [.start (oneProgram 7)]).keeper.notices = [] := by
    rw [started]
    rfl
  have reaped : (oneKilled 7).reap 7 = some (9, {}) := rfl
  have waited : ({} : Machine).clock + Keeper.drainTime ≤
      ({ clock := Keeper.drainTime } : Machine).clock := by decide
  obtain ⟨published, heard, -⟩ := exit_comes_out { program := "/r" }
    { directory := ⟨[FilePath.slash]⟩ } 2000000 false true [.start (oneProgram 7)] watched rfl
    reaped waited
  rw [show fresh _ _ _ _ _ = alone false from rfl, silent] at published heard
  exact ⟨heard rfl, published⟩

end Bench

end RLanguageHost.Child
