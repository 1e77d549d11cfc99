import RLanguageHost.Proofs.Lifecycle.Effects

/-!
# Who has a session

A session that was started is in the registry, until an event takes it out for a handler to stop.
From then on it is the handler's: the handler waits for the stop to end, unless it is given up
before.

What an event takes out is read off the registry before and after it (`takenBy`). `perm_stopping`
balances this against the handlers: they wait for what they waited for before and what was taken
out, less what came to an end or was given up. The deactivation stands apart, whose sessions no
handler stops.
-/

namespace RLanguageHost.Lifecycle

/-- What an effect does to the session in the registry. -/
theorem Standing.stored_apply (a : Standing) (effect : Effect) :
    (a.apply effect).stored =
      match effect with
      | .completed _ session => some session
      | .cleared => none
      | _ => a.stored := by
  cases effect with
  | asked handler =>
      rw [apply]
      split
      · rfl
      · split <;> rfl
  | untouched | completed | givenUp | cleared | died => rfl

namespace State

variable {s : State}

/-! ## Sessions in the registry -/

theorem Sound.mem_stored_iff (h : s.Sound) {session : Nat} :
    session ∈ s.stored ↔ ∃ key, s.registry.get? key = some session := by
  rw [stored, List.mem_map]
  constructor
  · rintro ⟨⟨key, _⟩, entry, rfl⟩
    exact ⟨key, h.sorted.mem_sessions_iff.mp entry⟩
  · rintro ⟨key, here⟩
    exact ⟨(key, session), h.sorted.mem_sessions_iff.mpr here, rfl⟩

/-- A session lies under one key at most, that of its own scope. -/
theorem Sound.key_unique (h : s.Sound) {key other : ScopeKey} {session : Nat}
    (here : s.registry.get? key = some session) (there : s.registry.get? other = some session) :
    key = other := by
  have own := h.own key session here
  rw [h.own other session there] at own
  exact (Option.some.inj own).symm

theorem Sound.nodup_stored (h : s.Sound) : s.stored.Nodup := by
  rw [stored, List.nodup_iff_pairwise_ne, List.pairwise_map]
  refine List.Pairwise.imp_of_mem ?_ h.sorted
  intro first second member other ordered same
  have here := h.sorted.mem_sessions_iff.mp member
  have there := h.sorted.mem_sessions_iff.mp other
  rw [← same] at there
  rw [h.key_unique here there] at ordered
  exact String.lt_irrefl _ ordered

theorem Sound.lt_of_mem_stored (h : s.Sound) {session : Nat} (member : session ∈ s.stored) :
    session < s.fleet.length := by
  obtain ⟨key, here⟩ := h.mem_stored_iff.mp member
  rw [← length_fleetKeys]
  exact (List.getElem?_eq_some_iff.mp (h.own key session here)).1

/-- What took keys out of a registry has taken out the session that is stopped next, and no other
one. -/
theorem Sound.perm_of_clearing (h : s.Sound) {keys : List ScopeKey} {progress : Progress}
    {registry : Registry} (clearing : Clearing s.registry keys (progress, registry)) :
    (s.stored.filter (· ∉ registry.sessions.map (·.2))).Perm progress.session?.toList := by
  have after : Sound { s with registry } :=
    h.withRegistry (clearing.sorted h.sorted) fun _ _ => clearing.get?_of_get?
  have gone : ∀ session, session ∈ s.stored.filter (· ∉ registry.sessions.map (·.2)) ↔
      ∃ key ∈ keys, s.registry.get? key = some session := by
    intro session
    rw [List.mem_filter, h.mem_stored_iff, decide_eq_true_iff]
    constructor
    · rintro ⟨⟨key, here⟩, absent⟩
      refine ⟨key, Classical.not_not.mp fun outside => absent ?_, here⟩
      refine after.mem_stored_iff.mpr ⟨key, ?_⟩
      rw [show ({ s with registry } : State).registry.get? key = _ from clearing.get? key,
        if_neg outside, here]
    · rintro ⟨key, inside, here⟩
      refine ⟨⟨key, here⟩, fun stays => ?_⟩
      obtain ⟨other, there⟩ := after.mem_stored_iff.mp stays
      have before := clearing.get?_of_get? there
      obtain rfl := h.key_unique here before
      rw [show ({ s with registry } : State).registry.get? key = _ from clearing.get? key,
        if_pos inside] at there
      cases there
  refine (List.perm_ext_iff_of_nodup (h.nodup_stored.filter _) ?_).mpr fun session => ?_
  · cases progress.session? with
    | none => exact .nil
    | some => exact List.pairwise_singleton _ _
  · rw [gone, Option.mem_toList]
    cases clearing.found with
    | nothing absent =>
        constructor
        · rintro ⟨key, inside, here⟩
          rw [absent key inside] at here
          cases here
        · exact fun none => by cases none
    | @session waiting taken stopped stops inside here absent =>
        rw [show (Progress.suspended waiting).session? = some stopped from stops]
        constructor
        · rintro ⟨key, member, found⟩
          by_cases same : key = taken
          · rw [← here, ← same, found]
          · rw [absent key member same] at found
            cases found
        · rintro ⟨⟩
          exact ⟨taken, inside, here⟩

/-! ## What an event takes out -/

/-- Only the start of a session completes a key. -/
theorem eq_startEnded_of_effect {key : ScopeKey} {e : Event} {handler session : Nat}
    (completed : s.effect key e = .completed handler session) :
    e = .startEnded handler (.ok ()) ∧ session = s.fleet.length := by
  cases e with
  | job job =>
      cases job with
      | openDocument | closeDocument | removeFolders =>
          simp only [effect] at completed
          split at completed <;> cases completed
  | startEnded other result =>
      simp only [effect] at completed
      split at completed
      · cases result with
        | ok =>
            cases completed
            exact ⟨rfl, rfl⟩
        | error => cases completed
      · cases completed
  | stopEnded | abandoned =>
      simp only [effect] at completed
      split at completed <;> cases completed
  | crashed | deactivated | workspaceChanged => cases completed

/-- The registry holds what it held before, and a session that was just started. -/
theorem Sound.mem_stored_step (h : s.Sound) {e : Event} {session : Nat}
    (member : session ∈ (s.step e).stored) : session ∈ s.stored ∨ session = s.fleet.length := by
  have follows := h.step e
  obtain ⟨key, here⟩ := follows.sound.mem_stored_iff.mp member
  have stands := (congrArg Standing.stored (follows.standing key)).symm.trans here
  rw [Standing.stored_apply] at stands
  split at stands
  · next completed =>
    rw [← Option.some.inj stands]
    exact .inr (eq_startEnded_of_effect completed).2
  · cases stands
  · exact .inl (h.mem_stored_iff.mpr ⟨key, stands⟩)

theorem mem_stored_of_mem_takenBy {e : Event} {session : Nat} (taken : session ∈ s.takenBy e) :
    session ∈ s.stored ∧ session ∉ (s.step e).stored := by
  cases e with
  | startEnded => cases taken
  | job | stopEnded | abandoned | crashed | deactivated | workspaceChanged =>
      obtain ⟨stored, gone⟩ := List.mem_filter.mp taken
      exact ⟨stored, of_decide_eq_true gone⟩

theorem Sound.nodup_takenBy (h : s.Sound) (e : Event) : (s.takenBy e).Nodup := by
  cases e with
  | startEnded => exact .nil
  | job | stopEnded | abandoned | crashed | deactivated | workspaceChanged =>
      exact h.nodup_stored.filter _

/-- An event that clears no key takes out nothing. -/
theorem Sound.takenBy_eq_nil (h : s.Sound) {e : Event}
    (kept : ∀ key, s.effect key e ≠ .cleared) : s.takenBy e = [] := by
  rw [List.eq_nil_iff_forall_not_mem]
  intro session taken
  obtain ⟨stored, gone⟩ := mem_stored_of_mem_takenBy taken
  obtain ⟨key, here⟩ := h.mem_stored_iff.mp stored
  have stands := congrArg Standing.stored ((h.step e).standing key)
  rw [Standing.stored_apply] at stands
  split at stands
  · next completed =>
    obtain ⟨rfl, -⟩ := eq_startEnded_of_effect completed
    cases taken
  · next cleared => exact kept key cleared
  · exact gone ((h.step e).sound.mem_stored_iff.mpr ⟨key, stands.trans here⟩)

/-- The deactivation empties the registry and begins to stop the sessions; the handlers are left to
themselves. -/
theorem step_deactivated_eq (s : State) :
    ∃ fleet : List Member, fleet.length = s.fleet.length ∧
      s.step .deactivated = { s with registry := {}, fleet } := by
  have stops : ∀ (entries : List (ScopeKey × Nat)) (t : State),
      ∃ fleet : List Member, fleet.length = t.fleet.length ∧
        entries.foldl (fun s entry => s.modify entry.2 beginStop) t = { t with fleet } := by
    intro entries
    induction entries with
    | nil => exact fun t => ⟨t.fleet, rfl, rfl⟩
    | cons entry rest ih =>
        intro t
        obtain ⟨fleet, length, same⟩ := ih (t.modify entry.2 beginStop)
        exact ⟨fleet, length.trans (List.length_modify _ _ _), same⟩
  exact stops s.registry.sessions { s with registry := {} }

theorem takenBy_deactivated (s : State) : s.takenBy .deactivated = s.stored := by
  obtain ⟨fleet, -, steps⟩ := s.step_deactivated_eq
  refine List.filter_eq_self.mpr fun session _ => ?_
  rw [steps]
  exact decide_eq_true List.not_mem_nil

/-! ## Handlers and the stops that they wait for -/

@[simp] theorem registry_record (handler : Nat) (progress : Progress) (registry : Registry) :
    (s.record handler progress registry).2.registry = registry := by
  cases progress with
  | finished => rfl
  | suspended waiting => cases waiting <;> rfl

theorem stopping_record (handler : Nat) (progress : Progress) (registry : Registry) :
    (s.record handler progress registry).2.stopping = s.stopping ++ progress.session?.toList := by
  cases progress with
  | finished => exact (List.append_nil _).symm
  | suspended waiting =>
      cases waiting with
      | start | stop | removal => exact List.flatMap_append

/-- A handler that is dropped takes the stop with it that it waits for. -/
theorem Sound.perm_stopping_dropHandler (h : s.Sound) (handler : Nat) :
    s.stopping.Perm ((s.dropHandler handler).stopping ++ s.stopOf handler) := by
  have distinct := h.distinct
  unfold stopping State.dropHandler stopOf waiting?
  dsimp only
  generalize s.handlers = handlers at distinct
  induction handlers with
  | nil => exact .nil
  | cons entry rest ih =>
      obtain ⟨first, waiting⟩ := entry
      obtain ⟨new, others⟩ := List.nodup_cons.mp distinct
      rw [List.lookup_cons]
      by_cases here : handler = first
      · subst here
        have elsewhere : rest.filter (·.1 ≠ handler) = rest := by
          rw [List.filter_eq_self]
          intro other member
          exact decide_eq_true fun same => new (List.mem_map.mpr ⟨other, member, same⟩)
        rw [List.filter_cons_of_neg (by simp), elsewhere, beq_self_eq_true, List.flatMap_cons]
        exact List.perm_append_comm
      · rw [List.filter_cons_of_pos (by simpa using Ne.symm here), beq_false_of_ne here,
          List.flatMap_cons, List.flatMap_cons, List.append_assoc]
        exact (ih others).append_left _

/-- A part of a handler that took keys out of the registry waits for the session that this took
out. -/
theorem Sound.perm_stopping_record (h : s.Sound) {keys : List ScopeKey} {progress : Progress}
    {registry : Registry} (clearing : Clearing s.registry keys (progress, registry))
    (handler : Nat) :
    (s.stopping ++ s.stored.filter (· ∉ (s.record handler progress registry).2.stored)).Perm
      (s.record handler progress registry).2.stopping := by
  rw [stopping_record, State.stored, registry_record]
  exact (h.perm_of_clearing clearing).append_left _

/-- To open a document stops nothing. -/
theorem session?_openDocument (view : View) (r : Registry) (d : Document) :
    (openDocument view r d).1.session? = none := by
  rw [openDocument]
  split
  · rfl
  · split <;> rfl

theorem stopOf_of_waiting? {handler : Nat} {waiting : Waiting}
    (waits : s.waiting? handler = some waiting) : s.stopOf handler = waiting.session?.toList := by
  rw [stopOf, waits]
  rfl

theorem stopOf_of_waiting?_eq_none {handler : Nat} (absent : s.waiting? handler = none) :
    s.stopOf handler = [] := by
  rw [stopOf, absent]
  rfl

theorem Sound.perm_stopping_job (h : s.Sound) (job : Job) :
    (s.stopping ++ s.takenBy (.job job)).Perm (s.step (.job job)).stopping := by
  cases job with
  | openDocument d =>
      have kept : ∀ key, s.effect key (.job (.openDocument d)) ≠ .cleared := by
        intro key
        rw [effect]
        split <;> simp
      rw [h.takenBy_eq_nil kept, State.step_openDocument, stopping_record, session?_openDocument]
      exact .refl _
  | closeDocument d =>
      exact h.next.perm_stopping_record (clearing_closeDocument s.view s.registry d) _
  | removeFolders folders =>
      exact h.next.perm_stopping_record (clearing_removeFolders s.registry [] folders) _

theorem Sound.perm_stopping_startEnded (h : s.Sound) (handler : Nat)
    (result : Except Session.Error Unit) :
    s.stopping.Perm (s.step (.startEnded handler result)).stopping := by
  by_cases starts : ∃ scope, s.waiting? handler = some (.start scope)
  · obtain ⟨scope, waits⟩ := starts
    have dropped := h.perm_stopping_dropHandler handler
    rw [stopOf_of_waiting? waits, show (Waiting.start scope).session?.toList = [] from rfl,
      List.append_nil] at dropped
    cases result with
    | ok => rwa [step_startEnded_ok waits]
    | error e =>
        rw [State.step, finishStart, waits]
        exact dropped
  · rw [step_startEnded_of_not_waiting (not_exists.mp starts)]

theorem Sound.perm_stopping_stopEnded (h : s.Sound) (handler : Nat)
    (result : Except Session.Error Unit) :
    (s.stopping ++ s.takenBy (.stopEnded handler result)).Perm
      ((s.step (.stopEnded handler result)).stopping ++ s.stopOf handler) := by
  have dropped := h.perm_stopping_dropHandler handler
  cases waits : s.waiting? handler with
  | none =>
      rw [h.takenBy_eq_nil fun key => by simp [effect, waits, reached], State.step, finishStop,
        waits, stopOf_of_waiting?_eq_none waits]
  | some waiting =>
      cases waiting with
      | start scope =>
          rw [h.takenBy_eq_nil fun key => by simp [effect, waits, Waiting.remaining, reached],
            State.step, finishStop, waits, stopOf_of_waiting? waits]
          rfl
      | stop key session =>
          rw [h.takenBy_eq_nil fun key => by simp [effect, waits, Waiting.remaining, reached],
            List.append_nil, State.step, finishStop, waits]
          exact dropped
      | removal key session rest stopped =>
          have goesOn := (h.dropHandler handler).perm_stopping_record
            (clearing_removeFolders s.registry (stopped ++ [key]) rest) handler
          have steps : s.step (.stopEnded handler result) =
              ((s.dropHandler handler).record handler
                (removeFolders s.registry (stopped ++ [key]) rest).1
                (removeFolders s.registry (stopped ++ [key]) rest).2).2 := by
            rw [State.step, finishStop, waits]
            rfl
          rw [← steps] at goesOn
          have moved : (s.stopping ++ s.takenBy (.stopEnded handler result)).Perm
              ((s.dropHandler handler).stopping ++ s.takenBy (.stopEnded handler result) ++
                s.stopOf handler) := by
            refine (dropped.append_right _).trans ?_
            rw [List.append_assoc, List.append_assoc]
            exact List.perm_append_comm.append_left _
          exact moved.trans (goesOn.append_right _)

/-- A handler waits for the session that an event takes out, until the stop has ended or is cut
off. -/
theorem Sound.perm_stopping (h : s.Sound) {e : Event} (running : e ≠ .deactivated) :
    (s.stopping ++ s.takenBy e).Perm ((s.step e).stopping ++ (s.endedBy e ++ s.cutBy e)) := by
  cases e with
  | job job =>
      rw [show s.endedBy (.job job) ++ s.cutBy (.job job) = [] from rfl, List.append_nil]
      exact h.perm_stopping_job job
  | startEnded handler result =>
      rw [show s.takenBy (.startEnded handler result) = [] from rfl]
      simpa [endedBy, cutBy] using h.perm_stopping_startEnded handler result
  | stopEnded handler result =>
      rw [show s.cutBy (.stopEnded handler result) = [] from rfl, List.append_nil]
      exact h.perm_stopping_stopEnded handler result
  | abandoned handler =>
      have kept : ∀ key, s.effect key (.abandoned handler) ≠ .cleared := by
        intro key
        rw [effect]
        split <;> simp
      rw [h.takenBy_eq_nil kept, List.append_nil, State.step, abandonHandler]
      cases waits : s.waiting? handler with
      | none => simp [cutBy, endedBy, stopOf_of_waiting?_eq_none waits]
      | some waiting => exact h.perm_stopping_dropHandler handler
  | crashed session =>
      rw [h.takenBy_eq_nil fun _ => by simp [effect]]
      exact .refl _
  | deactivated => exact absurd rfl running
  | workspaceChanged workspace =>
      rw [h.takenBy_eq_nil fun _ => by simp [effect]]
      exact .refl _

/-! ## Handlers that are given up -/

@[simp] theorem handlers_abandonHandler (s : State) (handler : Nat) :
    (s.abandonHandler handler).handlers = s.handlers.filter (·.1 ≠ handler) := by
  rw [abandonHandler]
  cases waits : s.waiting? handler with
  | none =>
      refine (List.filter_eq_self.mpr fun entry member => ?_).symm
      have differs := List.lookup_eq_none_iff.mp waits entry member
      exact decide_eq_true fun same => bne_iff_ne.mp differs same.symm
  | some waiting => rfl

/-- When all handlers are given up, none is left. -/
theorem handlers_foldl_abandonHandler (s : State) :
    ((s.handlers.map (·.1)).foldl abandonHandler s).handlers = [] := by
  suffices ∀ (numbers : List Nat) (t : State),
      (numbers.foldl abandonHandler t).handlers = t.handlers.filter (·.1 ∉ numbers) by
    rw [this, List.filter_eq_nil_iff]
    exact fun entry member absent => of_decide_eq_true absent (List.mem_map_of_mem member)
  intro numbers
  induction numbers with
  | nil => exact fun t => (List.filter_eq_self.mpr fun _ _ => by simp).symm
  | cons number rest ih =>
      intro t
      rw [List.foldl_cons, ih, handlers_abandonHandler, List.filter_filter]
      refine List.filter_congr fun entry _ => ?_
      simp [Bool.and_comm]

/-! ## Handlers that come to wait -/

/-- A handler comes to wait by an event: it has just begun, for a start only if a document was
opened, or it goes on to stop the next session. -/
inductive Comes (s : State) (handler : Nat) : Event → Waiting → Prop where
  | opened {d : Document} {scope : Scope} (new : handler = s.nextHandler)
      (resolved : s.workspace.resolve s.home d = some scope) :
      Comes s handler (.job (.openDocument d)) (.start scope)
  | closed {d : Document} {waiting : Waiting} {session : Nat} (new : handler = s.nextHandler)
      (stops : waiting.session? = some session) : Comes s handler (.job (.closeDocument d)) waiting
  | removed {folders : List Folder} {waiting : Waiting} {session : Nat}
      (new : handler = s.nextHandler) (stops : waiting.session? = some session) :
      Comes s handler (.job (.removeFolders folders)) waiting
  | next {result : Except Session.Error Unit} {before waiting : Waiting} {first session : Nat}
      (waits : s.waiting? handler = some before) (stopped : before.session? = some first)
      (stops : waiting.session? = some session) :
      Comes s handler (.stopEnded handler result) waiting

theorem mem_handlers_of_waiting? {handler : Nat} {waiting : Waiting}
    (waits : s.waiting? handler = some waiting) : (handler, waiting) ∈ s.handlers := by
  obtain ⟨before, after, split, -⟩ := List.lookup_eq_some_iff.mp waits
  rw [split]
  exact List.mem_append_right _ List.mem_cons_self

theorem mem_handlers_record {handler other : Nat} {waiting : Waiting} {progress : Progress}
    {registry : Registry}
    (waits : (other, waiting) ∈ (s.record handler progress registry).2.handlers) :
    (other, waiting) ∈ s.handlers ∨ other = handler ∧ progress = .suspended waiting := by
  cases progress with
  | finished => exact .inl waits
  | suspended last =>
      have listed : (other, waiting) ∈ s.handlers ++ [(handler, last)] := by
        cases last <;> exact waits
      refine (List.mem_append.mp listed).imp id fun added => ?_
      obtain ⟨rfl, rfl⟩ := Prod.mk.inj (List.mem_singleton.mp added)
      exact ⟨rfl, rfl⟩

/-- What took keys out of a registry waits for a stop, if for anything. -/
theorem session?_of_found {r : Registry} {keys : List ScopeKey} {waiting : Waiting}
    (found : Found r keys (.suspended waiting)) : ∃ session, waiting.session? = some session := by
  cases found with
  | session stops => exact ⟨_, stops⟩

/-- A handler that waits has waited before, or has come to wait. -/
theorem mem_handlers_step {e : Event} {handler : Nat} {waiting : Waiting}
    (waits : (handler, waiting) ∈ (s.step e).handlers) :
    (handler, waiting) ∈ s.handlers ∨ s.Comes handler e waiting := by
  cases e with
  | job job =>
      cases job with
      | openDocument d =>
          refine (mem_handlers_record waits).imp id fun ⟨new, progress⟩ => ?_
          obtain ⟨-, ⟨outcome, finished⟩ | ⟨scope, resolved, suspended⟩⟩ :=
            openDocument_cases s.view s.registry d
          · cases finished.symm.trans progress
          · cases suspended.symm.trans progress
            exact .opened new resolved
      | closeDocument d =>
          refine (mem_handlers_record waits).imp id fun ⟨new, progress⟩ => ?_
          have found := (clearing_closeDocument s.view s.registry d).found
          obtain ⟨session, stops⟩ := session?_of_found (progress ▸ found)
          exact .closed new stops
      | removeFolders folders =>
          refine (mem_handlers_record waits).imp id fun ⟨new, progress⟩ => ?_
          have found := (clearing_removeFolders s.registry [] folders).found
          obtain ⟨session, stops⟩ := session?_of_found (progress ▸ found)
          exact .removed new stops
  | startEnded other result =>
      rw [step, finishStart] at waits
      refine .inl ?_
      split at waits
      · cases result <;> exact (List.mem_filter.mp waits).1
      · exact waits
  | stopEnded other result =>
      rw [step, finishStop] at waits
      split at waits
      · exact .inl (List.mem_filter.mp waits).1
      · next key session rest stopped before =>
        rcases mem_handlers_record waits with stays | ⟨rfl, progress⟩
        · exact .inl (List.mem_filter.mp stays).1
        · have found := (clearing_removeFolders s.registry (stopped ++ [key]) rest).found
          obtain ⟨session, stops⟩ := session?_of_found (progress ▸ found)
          exact .inr (.next before rfl stops)
      · exact .inl waits
  | abandoned other =>
      rw [step, handlers_abandonHandler] at waits
      exact .inl (List.mem_filter.mp waits).1
  | crashed => exact .inl waits
  | deactivated =>
      obtain ⟨fleet, -, steps⟩ := s.step_deactivated_eq
      rw [steps] at waits
      exact .inl waits
  | workspaceChanged => exact .inl waits

/-- Only the handler of an opened document comes to wait for a start. -/
theorem Comes.exists_document {e : Event} {handler : Nat} {scope : Scope}
    (comes : s.Comes handler e (.start scope)) :
    ∃ d, e = .job (.openDocument d) ∧ s.workspace.resolve s.home d = some scope := by
  cases comes with
  | opened new resolved => exact ⟨_, rfl, resolved⟩
  | closed new stops | removed new stops => cases stops
  | next waits stopped stops => cases stops

/-! ## The fleet -/

@[simp] theorem length_fleet_modify (session : Nat) (f : Member → Member) :
    (s.modify session f).fleet.length = s.fleet.length :=
  List.length_modify ..

@[simp] theorem scopes_record (handler : Nat) (progress : Progress) (registry : Registry) :
    (s.record handler progress registry).2.scopes = s.scopes := by
  cases progress with
  | finished => rfl
  | suspended waiting =>
      cases waiting with
      | start => rfl
      | stop | removal => exact ends_beginStop.scopes rfl

/-- The scope of the session that an event adds. -/
def startedBy (s : State) : Event → List Scope
  | .startEnded handler (.ok ()) =>
    match s.waiting? handler with
    | some (.start scope) => [scope]
    | _ => []
  | _ => []

/-- Sessions that were started are never forgotten. -/
theorem scopes_step (s : State) (e : Event) : (s.step e).scopes = s.scopes ++ s.startedBy e := by
  cases e with
  | job job => exact (scopes_record _ _ _).trans (List.append_nil _).symm
  | startEnded handler result =>
      by_cases starts : ∃ scope, s.waiting? handler = some (.start scope)
      · obtain ⟨scope, waits⟩ := starts
        cases result with
        | ok =>
            rw [step_startEnded_ok waits, startedBy, waits]
            exact List.map_append
        | error e =>
            rw [step, finishStart, waits]
            exact (List.append_nil _).symm
      · have same := step_startEnded_of_not_waiting (not_exists.mp starts) result
        have nothing : s.startedBy (.startEnded handler result) = [] := by
          cases result with
          | error => rfl
          | ok =>
              rw [startedBy]
              split
              · next scope waits => exact absurd ⟨scope, waits⟩ starts
              · rfl
        rw [same, nothing, List.append_nil]
  | stopEnded handler result =>
      refine Eq.trans ?_ (List.append_nil _).symm
      rw [step, finishStop]
      split
      · rfl
      · exact scopes_record _ _ _
      · rfl
  | abandoned handler =>
      refine Eq.trans ?_ (List.append_nil _).symm
      rw [step, abandonHandler]
      split <;> rfl
  | crashed session => exact (ends_crash.scopes rfl).trans (List.append_nil _).symm
  | deactivated =>
      refine Eq.trans ?_ (List.append_nil _).symm
      suffices ∀ (entries : List (ScopeKey × Nat)) (t : State),
          (entries.foldl (fun s entry => s.modify entry.2 beginStop) t).scopes = t.scopes from
        this s.registry.sessions { s with registry := {} }
      intro entries
      induction entries with
      | nil => exact fun _ => rfl
      | cons entry rest ih => exact fun t => (ih _).trans (ends_beginStop.scopes rfl)
  | workspaceChanged => exact (List.append_nil _).symm

theorem length_fleet_step (s : State) (e : Event) :
    s.fleet.length ≤ (s.step e).fleet.length := by
  have lengths := congrArg List.length (scopes_step s e)
  rw [List.length_append, scopes, scopes, List.length_map, List.length_map] at lengths
  omega

end State

end RLanguageHost.Lifecycle
