import Mathlib.Logic.Relation
import RLanguageHost.Child.Bench

/-!
# What happens to child processes

However the calls of a bench, the ends of its processes, the steps of its watches and the returns of
handlers follow each other, only a few things happen to what is known of the processes. `Move` lists
them. A step of a keeper or a call of a bench is made of moves, on any machine, so what all moves
keep holds at all times.
-/

namespace RLanguageHost.Child

/-! ## Moves -/

/-- How processes stand, and what handlers have to do with them. -/
structure Account where
  supervisor : Supervisor
  /-- Whether a handler for exits is installed. -/
  handles : Bool
  /-- What handlers were given and have not come back from. -/
  given : List Notice
  /-- What handlers have come back from. -/
  heard : List Notice

namespace Account

variable {a b : Account}

/-- The account after an event of the supervisor. -/
def tell (a : Account) (event : Supervisor.Event) : Account :=
  { a with supervisor := a.supervisor.step event }

/-- The account after something was given to handlers. -/
def give (a : Account) (notices : List Notice) : Account :=
  { a with given := a.given ++ notices }

end Account

/-- What can happen, one thing at a time. -/
inductive Move (a : Account) : Account → Prop
  | installed : Move a { a with handles := true }
  | started (pid : Nat) : Move a (a.tell (.started pid a.handles))
  | killed : Move a (a.tell .killAsked)
  | exited (n : Nat) (exit : Exit) : Move a (a.tell (.exited n exit))
  | reported {n : Nat} {w : Watch} {exit : Exit} (watched : a.supervisor.watch? n = some w)
      (ended : w.phase = .draining exit) :
      Move a ((a.tell (.drained n)).give (w.told n exit))
  | published {n : Nat} (free : a.given.filter (·.isExitOf n) = []) : Move a (a.tell (.publish n))
  | settled : Move a (a.tell .settled)
  | passed (lines : List String) : Move a (a.give (lines.map .line))
  | finished {before after : List Notice} {notice : Notice}
      (lasting : a.given = before ++ notice :: after) :
      Move a { a with given := before ++ after, heard := a.heard ++ [notice] }

/-- Several things can happen one after the other. -/
abbrev Moves : Account → Account → Prop :=
  Relation.ReflTransGen Move

/-! ## Steps of keepers -/

namespace Keeper

variable {m m' : Machine} {k k' : Keeper} {n : Nat}

/-- The keeper after a process was started. -/
def begun (k : Keeper) (child : Machine.Spawned) : Keeper :=
  { k.tell (.started child.pid k.exitHandler) with
    kept := if k.plan.piped then some { reads := child.stdout, writes := child.stdin } else none
    monitors := k.monitors ++ [{ pipe := some child.stderr, forwards := k.handler }]
    handler := false }

theorem start_of_spawn {child : Machine.Spawned} (free : k.isRunning = false)
    (spawned : m.spawn k.around k.plan = .ok (child, m')) :
    (k.start m).1 = .ok () ∧ (k.start m).2.2 = k.begun child := by
  rw [start, if_neg (Bool.eq_false_iff.mp free), spawned]
  exact ⟨rfl, rfl⟩

theorem start_cases (m : Machine) (k : Keeper) :
    (∃ e, (k.start m).1 = .error e) ∧ (k.start m).2.2 = k ∨
      k.isRunning = false ∧ (k.start m).1 = .ok () ∧ ∃ child, (k.start m).2.2 = k.begun child := by
  by_cases free : k.isRunning = false
  · cases spawned : m.spawn k.around k.plan with
    | error failure =>
        left
        rw [start, if_neg (Bool.eq_false_iff.mp free), spawned]
        exact ⟨⟨_, rfl⟩, rfl⟩
    | ok started =>
        obtain ⟨child, m'⟩ := started
        obtain ⟨result, keeper⟩ := start_of_spawn free spawned
        exact .inr ⟨free, result, child, keeper⟩
  · left
    rw [start, if_pos (Bool.not_eq_false _ ▸ free)]
    exact ⟨⟨_, rfl⟩, rfl⟩

theorem takeChannel_eq (k : Keeper) : ∃ kept, k.takeChannel.2 = { k with kept } := by
  unfold takeChannel
  split
  · exact ⟨k.kept, rfl⟩
  · split
    · exact ⟨none, rfl⟩
    · exact ⟨k.kept, rfl⟩

theorem stopMonitor_eq (m : Machine) (k : Keeper) :
    (k.stopMonitor m).2 = k.modify (k.monitors.length - 1) fun o => { o with pipe := none } := by
  unfold stopMonitor
  split
  · rfl
  · next none =>
    rw [modify, List.getLast?_eq_none_iff.mp none]
    show k = { k with monitors := [] }
    rw [← List.getLast?_eq_none_iff.mp none]

theorem beginStop_cases (m : Machine) (k : Keeper) (mode : StopMode) :
    (∃ e, (k.beginStop m mode).1 = .error e) ∧ (k.beginStop m mode).2.2 = k ∨
      (k.beginStop m mode).1 = .ok () ∧ ∃ stopping,
        (k.beginStop m mode).2.2 = { k with kept := none, stopping } ∨
          (k.beginStop m mode).2.2 = { k.tell .killAsked with kept := none, stopping } := by
  unfold beginStop
  split
  · exact .inl ⟨⟨_, rfl⟩, rfl⟩
  · cases mode with
    | graceful => exact .inr ⟨rfl, _, .inl rfl⟩
    | force => exact .inr ⟨rfl, _, .inr rfl⟩

theorem killNow_cases (m : Machine) (k : Keeper) :
    (k.killNow m).2 = k ∨
      (k.killNow m).2 = (((k.kill m).2.stopMonitor (k.kill m).1).2).tell .settled := by
  unfold killNow
  split
  · exact .inl rfl
  · exact .inr rfl

theorem linkStep_eq (step : k.linkStep m = some (m', k')) : ∃ kept, k' = { k with kept } := by
  obtain ⟨l, -, step⟩ := Option.bind_eq_some_iff.mp step
  obtain ⟨⟨m₁, l'⟩, -, made⟩ := Option.bind_eq_some_iff.mp step
  cases made
  exact ⟨_, rfl⟩

/-- A read gives a block, whose complete lines are passed on, or the end of the stream, and then
what has begun is passed on. -/
theorem monitorStep_cases (step : k.monitorStep m n = some (m', k')) :
    ∃ o pipe, k.monitors[n]? = some o ∧ o.pipe = some pipe ∧
      ((∃ bytes m₁, m.readPipe pipe Wire.gulp = .data bytes m₁ ∧
          k' = (k.modify n fun o' => { o' with reader := (o.reader.feed bytes).2 }).pass o.forwards
            (o.reader.feed bytes).1) ∨
        m.readPipe pipe Wire.gulp = .atEnd ∧
          k' = (k.modify n fun o' => { o' with pipe := none }).pass o.forwards
            o.reader.finish) := by
  obtain ⟨o, found, step⟩ := Option.bind_eq_some_iff.mp step
  obtain ⟨pipe, opened, step⟩ := Option.bind_eq_some_iff.mp step
  refine ⟨o, pipe, found, opened, ?_⟩
  split at step
  · next bytes m₁ read =>
    cases step
    exact .inl ⟨bytes, _, read, rfl⟩
  · next read =>
    cases step
    exact .inr ⟨read, rfl⟩
  · cases step

theorem watchStep_cases (step : k.watchStep m n = some (m', k')) :
    (∃ exit deadline, k' = (k.modify n fun o => { o with deadline }).tell (.exited n exit)) ∨
      (∃ w exit, k.supervisor.watch? n = some w ∧ w.phase = .draining exit ∧
        k' = { k.tell (.drained n) with notices := k.notices ++ w.told n exit }) ∨
      k.notices.filter (·.isExitOf n) = [] ∧ k' = k.tell (.publish n) := by
  obtain ⟨w, watched, step⟩ := Option.bind_eq_some_iff.mp step
  split at step
  · obtain ⟨⟨word, m₁⟩, -, made⟩ := Option.bind_eq_some_iff.mp step
    cases made
    exact .inl ⟨_, _, rfl⟩
  · obtain ⟨⟨word, m₁⟩, -, made⟩ := Option.bind_eq_some_iff.mp step
    cases made
    exact .inl ⟨_, _, rfl⟩
  · next exit ended =>
    dsimp only at step
    split at step
    · cases step
      exact .inr (.inl ⟨w, exit, watched, ended, rfl⟩)
    · cases step
  · split at step
    · cases step
    · next free =>
      cases step
      exact .inr (.inr ⟨by simpa using free, rfl⟩)
  · cases step

theorem stopStep_cases (step : k.stopStep m = some (m', k')) :
    k.stopping ≠ .idle ∧ (k' = (k.finishStop m).2 ∨
      ∃ stopping, k' = { k.tell .killAsked with stopping }) := by
  unfold stopStep at step
  split at step
  · cases step
  · next deadline asked =>
    refine ⟨by simp [asked], ?_⟩
    split at step
    · exact .inl (congrArg Prod.snd (Option.some.inj step)).symm
    · split at step
      · cases step
        exact .inr ⟨_, rfl⟩
      · cases step
  · next deadline killed =>
    refine ⟨by simp [killed], ?_⟩
    split at step
    · exact .inl (congrArg Prod.snd (Option.some.inj step)).symm
    · cases step

/-- What a keeper does next is a step of one of its parts. -/
theorem step_of_react (step : k.react m = some (m', k')) :
    k.linkStep m = some (m', k') ∨ (∃ n, k.monitorStep m n = some (m', k')) ∨
      (∃ n, k.watchStep m n = some (m', k')) ∨ k.stopStep m = some (m', k') := by
  unfold react at step
  rcases Option.or_eq_some_iff.mp step with linked | ⟨-, step⟩
  · exact .inl linked
  rcases Option.or_eq_some_iff.mp step with found | ⟨-, step⟩
  · obtain ⟨n, -, monitored⟩ := List.exists_of_findSome?_eq_some found
    exact .inr (.inl ⟨n, monitored⟩)
  rcases Option.or_eq_some_iff.mp step with found | ⟨-, stopped⟩
  · obtain ⟨n, -, watched⟩ := List.exists_of_findSome?_eq_some found
    exact .inr (.inr (.inl ⟨n, watched⟩))
  · exact .inr (.inr (.inr stopped))

end Keeper

/-! ## Keepers -/

namespace Keeper

variable {m m' : Machine} {k k' : Keeper} {heard : List Notice} {n : Nat}

/-- The account of a keeper whose handlers have come back from some notices. -/
def account (k : Keeper) (heard : List Notice) : Account where
  supervisor := k.supervisor
  handles := k.exitHandler
  given := k.notices
  heard

theorem account_tell (k : Keeper) (event : Supervisor.Event) (heard : List Notice) :
    (k.tell event).account heard = (k.account heard).tell event := rfl

theorem account_stopMonitor (m : Machine) (k : Keeper) (heard : List Notice) :
    (k.stopMonitor m).2.account heard = k.account heard := by
  rw [stopMonitor_eq]
  rfl

theorem moves_start (m : Machine) (k : Keeper) (heard : List Notice) :
    Moves (k.account heard) ((k.start m).2.2.account heard) := by
  rcases start_cases m k with ⟨-, same⟩ | ⟨-, -, child, begun⟩
  · rw [same]
  · rw [begun]
    exact .single (.started child.pid)

theorem account_takeChannel (k : Keeper) (heard : List Notice) :
    k.takeChannel.2.account heard = k.account heard := by
  obtain ⟨kept, taken⟩ := k.takeChannel_eq
  rw [taken]
  rfl

theorem moves_beginStop (m : Machine) (k : Keeper) (mode : StopMode) (heard : List Notice) :
    Moves (k.account heard) ((k.beginStop m mode).2.2.account heard) := by
  rcases beginStop_cases m k mode with ⟨-, same⟩ | ⟨-, stopping, asked | killed⟩
  · rw [same]
  · rw [asked]
    exact .refl
  · rw [killed]
    exact .single .killed

theorem moves_killNow (m : Machine) (k : Keeper) (heard : List Notice) :
    Moves (k.account heard) ((k.killNow m).2.account heard) := by
  rcases killNow_cases m k with same | settled
  · rw [same]
  · have killed : Moves (k.account heard) ((k.kill m).2.account heard) := .single .killed
    rw [settled, account_tell, account_stopMonitor]
    exact killed.tail .settled

theorem moves_drop (m : Machine) (k : Keeper) (heard : List Notice) :
    Moves (k.account heard) ((k.drop m).2.account heard) :=
  .single .killed

theorem account_linkStep (step : k.linkStep m = some (m', k')) :
    k'.account heard = k.account heard := by
  obtain ⟨kept, rfl⟩ := linkStep_eq step
  rfl

theorem moves_pass (k : Keeper) (forwards : Bool) (lines : List Bytes) (heard : List Notice) :
    Moves (k.account heard) ((k.pass forwards lines).account heard) := by
  cases forwards with
  | false => exact .refl
  | true =>
      have passed := Move.passed (a := k.account heard)
        (lines.map fun l => String.ofList (Lines.text l))
      rw [List.map_map] at passed
      exact .single passed

theorem moves_monitorStep (step : k.monitorStep m n = some (m', k')) :
    Moves (k.account heard) (k'.account heard) := by
  obtain ⟨o, pipe, -, -, ⟨bytes, m₁, -, rfl⟩ | ⟨-, rfl⟩⟩ := monitorStep_cases step
  · exact moves_pass (k.modify n _) o.forwards _ heard
  · exact moves_pass (k.modify n _) o.forwards _ heard

theorem moves_watchStep (step : k.watchStep m n = some (m', k')) :
    Moves (k.account heard) (k'.account heard) := by
  rcases watchStep_cases step with
    ⟨exit, deadline, rfl⟩ | ⟨w, exit, watched, ended, rfl⟩ | ⟨free, rfl⟩
  · exact .single (.exited n exit)
  · exact .single (.reported watched ended)
  · exact .single (.published free)

theorem moves_finishStop (m : Machine) (k : Keeper) (heard : List Notice) :
    Moves (k.account heard) ((k.finishStop m).2.account heard) := by
  show Moves _ (((k.stopMonitor m).2.account heard).tell .settled)
  rw [account_stopMonitor]
  exact .single .settled

theorem moves_stopStep (step : k.stopStep m = some (m', k')) :
    Moves (k.account heard) (k'.account heard) := by
  obtain ⟨-, rfl | ⟨stopping, rfl⟩⟩ := stopStep_cases step
  · exact moves_finishStop m k heard
  · exact .single .killed

end Keeper

/-! ## Benches -/

namespace Bench

variable {m m' : Machine} {b b' : Bench}

def account (b : Bench) : Account :=
  b.keeper.account b.heard

/-- What a bench does next leaves its keeper and the notices alone, or is a step of its keeper,
whose notices are kept. -/
theorem step_of_react (step : b.react m = some (m', b')) :
    (b'.keeper = b.keeper ∧ b'.heard = b.heard) ∨
      ∃ keeper, b.keeper.react m = some (m', keeper) ∧ b' = { b with keeper }.keep := by
  unfold react at step
  rcases Option.or_eq_some_iff.mp step with channel | ⟨-, step⟩
  · left
    rcases Option.or_eq_some_iff.mp channel with wired | ⟨-, searched⟩
    · obtain ⟨w, -, step⟩ := Option.bind_eq_some_iff.mp wired
      obtain ⟨⟨m₁, w'⟩, -, made⟩ := Option.bind_eq_some_iff.mp step
      cases made
      exact ⟨rfl, rfl⟩
    · obtain ⟨w, -, step⟩ := Option.bind_eq_some_iff.mp searched
      obtain ⟨s, -, step⟩ := Option.bind_eq_some_iff.mp step
      obtain ⟨⟨s', channel⟩, -, made⟩ := Option.bind_eq_some_iff.mp step
      cases made
      exact ⟨rfl, rfl⟩
  · obtain ⟨⟨m₁, keeper⟩, kept, made⟩ := Option.bind_eq_some_iff.mp step
    cases made
    exact .inr ⟨keeper, kept, rfl⟩

end Bench

/-! ## Calls that wait -/

namespace Act

theorem waits_of_not_isCall {a : Act} (goesOn : a.isCall = false) : a.waits = false := by
  cases a with
  | wait => cases goesOn
  | _ => rfl

end Act

namespace Bench

variable {m m' : Machine} {b b' b'' : Bench} {a : Act} {acts : List Act}

/-- Two benches with the same keeper, on which the same was heard. -/
structure Alike (b b' : Bench) : Prop where
  keeper : b.keeper = b'.keeper
  heard : b.heard = b'.heard

theorem Alike.act (alike : b.Alike b') (single : a.waits = false) :
    (b.act a).Alike (b'.act a) := by
  obtain ⟨k, wire, heard, search⟩ := b
  obtain ⟨k', wire', heard', search'⟩ := b'
  obtain ⟨rfl, rfl⟩ := alike
  have moved (next : Option (Machine × Keeper)) :
      (Bench.move ⟨k, wire, heard, search⟩ next).Alike (move ⟨k, wire', heard, search'⟩ next) := by
    cases next <;> exact ⟨rfl, rfl⟩
  cases a with
  | link | monitor | watch | stopping => exact moved _
  | wait => cases single
  | _ => exact ⟨rfl, rfl⟩

theorem Alike.run (alike : b.Alike b') (goOn : ∀ a ∈ acts, a.isCall = false) :
    (b.run acts).Alike (b'.run acts) := by
  induction acts generalizing b b' with
  | nil => exact alike
  | cons a acts ih =>
      have first := alike.act (Act.waits_of_not_isCall (goOn a List.mem_cons_self))
      exact ih first fun a' later => goOn a' (.tail a later)

/-- What goes on by itself leads from one bench to one like the other. -/
def Leads (b b' : Bench) : Prop :=
  ∃ acts : List Act, (∀ a ∈ acts, a.isCall = false) ∧ (b.run acts).Alike b'

theorem Leads.of_alike (alike : b.Alike b') : b.Leads b' :=
  ⟨[], fun _ member => (List.not_mem_nil member).elim, alike⟩

theorem Leads.single (goesOn : a.isCall = false) (alike : (b.act a).Alike b') : b.Leads b' :=
  ⟨[a], fun _ member => List.mem_singleton.mp member ▸ goesOn, alike⟩

theorem Leads.trans (h : b.Leads b') (h' : b'.Leads b'') : b.Leads b'' := by
  obtain ⟨acts, goOn, alike⟩ := h
  obtain ⟨acts', goOn', alike'⟩ := h'
  refine ⟨acts ++ acts', fun a member => ?_, ?_⟩
  · exact (List.mem_append.mp member).elim (goOn a) (goOn' a)
  · have first := alike.run goOn'
    rw [Bench.run, List.foldl_append]
    exact ⟨first.keeper.trans alike'.keeper, first.heard.trans alike'.heard⟩

/-- Handlers come back from all that they were given. -/
theorem leads_keep (b : Bench) : b.Leads b.keep := by
  obtain ⟨k, wire, heard, search⟩ := b
  generalize given : k.notices = notices
  induction notices generalizing k heard with
  | nil =>
      refine .of_alike ⟨?_, ?_⟩
      · show k = { k with notices := [] }
        rw [← given]
      · show heard = heard ++ k.notices
        rw [given, List.append_nil]
  | cons notice rest ih =>
      have finished : (Bench.mk k wire heard search).act (.finish 0) =
          ⟨{ k with notices := rest }, wire, heard ++ [notice], search⟩ := by
        rw [act, given]
        rfl
      have kept : (Bench.mk { k with notices := rest } wire (heard ++ [notice]) search).keep.Alike
          (Bench.mk k wire heard search).keep := by
        refine ⟨rfl, ?_⟩
        show heard ++ [notice] ++ rest = heard ++ k.notices
        rw [given, List.append_assoc]
        rfl
      have first : (Bench.mk k wire heard search).Leads _ :=
        .single (a := .finish 0) rfl ⟨rfl, rfl⟩
      rw [finished] at first
      exact (first.trans (ih _ _ rfl)).trans (.of_alike kept)

theorem leads_react (step : b.react m = some (m', b')) : b.Leads b' := by
  rcases step_of_react step with ⟨keeper, heard⟩ | ⟨keeper, kept, rfl⟩
  · exact .of_alike ⟨keeper.symm, heard.symm⟩
  · suffices stepped : b.Leads { b with keeper } from stepped.trans (leads_keep _)
    rcases Keeper.step_of_react kept with linked | ⟨n, monitored⟩ | ⟨n, watched⟩ | stopped
    · refine .single (a := .link m) rfl ?_
      rw [act, linked]
      exact ⟨rfl, rfl⟩
    · refine .single (a := .monitor m n) rfl ?_
      rw [act, monitored]
      exact ⟨rfl, rfl⟩
    · refine .single (a := .watch m n) rfl ?_
      rw [act, watched]
      exact ⟨rfl, rfl⟩
    · refine .single (a := .stopping m) rfl ?_
      rw [act, stopped]
      exact ⟨rfl, rfl⟩

/-- A call that waits does nothing of its own. -/
theorem leads_wait (m : Machine) (b : Bench) (limit : Nat) : b.Leads (b.wait m limit).2.2 := by
  unfold wait
  split
  · exact .of_alike ⟨rfl, rfl⟩
  · have leads : b.Leads (host.await (·.keeper.supervisor.exit?.isSome) limit m b).2 :=
      Machine.Host.advance_induction (R := Leads) (fun _ => .of_alike ⟨rfl, rfl⟩)
        (fun _ _ _ _ _ reacted later => (leads_react reacted).trans later) _ _ _ m b
    generalize host.await _ limit m b = outcome at leads ⊢
    obtain ⟨m', b'⟩ := outcome
    exact leads

end Bench

/-! ## What acts are made of -/

namespace Bench

variable {m m' : Machine} {b : Bench}

theorem moves_move {next : Option (Machine × Keeper)}
    (moves : ∀ m k, next = some (m, k) → Moves b.account (k.account b.heard)) :
    Moves b.account (b.move next).account := by
  cases next with
  | none => exact .refl
  | some step => exact moves step.1 step.2 rfl

theorem moves_finish (b : Bench) (i : Nat) : Moves b.account (b.act (.finish i)).account := by
  rcases Nat.lt_or_ge i b.keeper.notices.length with lasts | past
  · have lasting : b.account.given = b.keeper.notices.take i ++
        b.keeper.notices[i] :: b.keeper.notices.drop (i + 1) := by
      rw [List.getElem_cons_drop]
      exact (List.take_append_drop i b.keeper.notices).symm
    have finished := Move.finished lasting
    rw [← List.eraseIdx_eq_take_drop_succ] at finished
    have act : (b.act (.finish i)).account = { b.account with
        given := b.keeper.notices.eraseIdx i
        heard := b.account.heard ++ [b.keeper.notices[i]] } := by
      rw [Bench.act, List.getElem?_eq_getElem lasts]
      rfl
    rw [act]
    exact .single finished
  · have act : (b.act (.finish i)).account = b.account := by
      rw [Bench.act, List.getElem?_eq_none past, List.eraseIdx_of_length_le past]
      show Account.mk _ _ _ (b.heard ++ []) = _
      rw [List.append_nil]
      rfl
    rw [act]

theorem moves_single (b : Bench) {a : Act} (single : a.waits = false) :
    Moves b.account (b.act a).account := by
  cases a with
  | install => exact .single .installed
  | start m => exact Keeper.moves_start m b.keeper b.heard
  | stop m mode => exact Keeper.moves_beginStop m b.keeper mode b.heard
  | killNow m => exact Keeper.moves_killNow m b.keeper b.heard
  | drop m => exact Keeper.moves_drop m b.keeper b.heard
  | takeChannel =>
      show Moves b.account (b.keeper.takeChannel.2.account b.heard)
      rw [Keeper.account_takeChannel]
      exact .refl
  | link m =>
      refine moves_move fun m k step => ?_
      rw [Keeper.account_linkStep step]
      exact .refl
  | monitor m n => exact moves_move fun _ _ => Keeper.moves_monitorStep
  | watch m n => exact moves_move fun _ _ => Keeper.moves_watchStep
  | stopping m => exact moves_move fun _ _ => Keeper.moves_stopStep
  | finish i => exact moves_finish b i
  | wait => cases single

theorem moves_wait (m : Machine) (b : Bench) (limit : Nat) :
    Moves b.account (b.wait m limit).2.2.account := by
  obtain ⟨acts, goOn, keeper, heard⟩ := leads_wait m b limit
  have same : (b.wait m limit).2.2.account = (b.run acts).account := by
    rw [account, account, keeper, heard]
  rw [same]
  clear keeper heard same
  induction acts generalizing b with
  | nil => exact .refl
  | cons a acts ih =>
      have first := moves_single b (Act.waits_of_not_isCall (goOn a List.mem_cons_self))
      exact first.trans (ih (b.act a) fun a' later => goOn a' (.tail a later))

theorem moves_act (b : Bench) (a : Act) : Moves b.account (b.act a).account := by
  cases a with
  | wait m limit => exact moves_wait m b limit
  | _ => exact moves_single b rfl

theorem moves_run (b : Bench) (acts : List Act) : Moves b.account (b.run acts).account := by
  induction acts generalizing b with
  | nil => exact .refl
  | cons a acts ih => exact (moves_act b a).trans (ih (b.act a))

end Bench

end RLanguageHost.Child
