import RLanguageHost.Lifecycle.State
import RLanguageHost.Proofs.Lifecycle.Standing
import RLanguageHost.Proofs.Registry

/-!
# Sound states

What holds of the state of the host whatever happens: handlers that wait have numbers of their own,
a start that is waited for is that of a scope which some document has, and a session lies in the
registry under the key of its own scope. These facts make the standing of a key, read off the lists
of the state, behave as the key's own small state.

Closing a document, removing folders and going on with the next folder all take keys out of the
registry in the same way, until one of the keys has a session. `Clearing` says this once.
-/

namespace RLanguageHost.Lifecycle

/-- The key for which a session is waited for. -/
def Waiting.startKey? : Waiting → Option ScopeKey
  | .start scope => some scope.key
  | .stop .. | .removal .. => none

namespace State

variable {s t : State} {key : ScopeKey}

/-! ## What a state says about a key -/

/-- The handlers that wait for a session to be started for a key. -/
def starting (s : State) (key : ScopeKey) : List Nat :=
  (s.handlers.filter fun entry => entry.2.startKey? = some key).map (·.1)

/-- Whether the session that is stored for a key still needs to be stopped. -/
def isServed (s : State) (key : ScopeKey) : Bool :=
  (s.registry.get? key).any s.isLive

/-- The sessions for a key that still need to be stopped, stored or not. -/
def alive (s : State) (key : ScopeKey) : List Nat :=
  (List.range s.fleet.length).filter fun session =>
    (s.fleet[session]?).any fun m => m.live && m.scope.key = key

/-- All that a state says about a key. -/
def standing (s : State) (key : ScopeKey) : Standing :=
  { starting := s.starting key
    marked := s.registry.isMarked key
    stored := s.registry.get? key
    alive := s.alive key }

/-- The scopes of the sessions that were ever started. -/
def scopes (s : State) : List Scope :=
  s.fleet.map (·.scope)

/-- The keys of the sessions that were ever started. -/
def fleetKeys (s : State) : List ScopeKey :=
  s.fleet.map (·.scope.key)

/-- What holds of the state of the host whatever happens. -/
structure Sound (s : State) : Prop where
  sorted : s.registry.Sorted
  own : ∀ key session, s.registry.get? key = some session → s.fleetKeys[session]? = some key
  distinct : (s.handlers.map (·.1)).Nodup
  numbered : ∀ handler ∈ s.handlers.map (·.1), handler < s.nextHandler
  resolved : ∀ handler scope, (handler, .start scope) ∈ s.handlers →
    ∃ w : Workspace, ∃ d, w.resolve s.home d = some scope

theorem sound_initial (home : FilePath) (workspace : Workspace) :
    Sound { home, workspace } where
  sorted := Registry.sorted_empty
  own := by simp [Registry.get?]
  distinct := .nil
  numbered := by simp
  resolved := by simp

/-- A session that is stored was started, for a scope with the key. -/
theorem Sound.exists_scope (h : s.Sound) {session : Nat}
    (stored : s.registry.get? key = some session) :
    ∃ scope, s.scopes[session]? = some scope ∧ scope.key = key := by
  have owned := h.own key session stored
  have keys : s.fleetKeys = s.scopes.map (·.key) := (List.map_map).symm
  rw [keys, List.getElem?_map] at owned
  exact Option.map_eq_some_iff.mp owned

/-! ## Handlers that wait -/

theorem Sound.waiting?_eq_some_iff (h : s.Sound) {handler : Nat} {waiting : Waiting} :
    s.waiting? handler = some waiting ↔ (handler, waiting) ∈ s.handlers := by
  have distinct := h.distinct
  unfold waiting?
  generalize s.handlers = handlers at distinct
  induction handlers with
  | nil =>
      simp
  | cons entry rest ih =>
      obtain ⟨first, stays⟩ := entry
      obtain ⟨new, others⟩ := List.nodup_cons.mp distinct
      rw [List.lookup_cons, List.mem_cons, Prod.mk.injEq]
      by_cases here : handler = first
      · subst here
        have absent : (handler, waiting) ∉ rest := fun later =>
          new (List.mem_map.mpr ⟨_, later, rfl⟩)
        simp [absent, eq_comm]
      · rw [beq_false_of_ne here]
        simp [here, ih others]

theorem mem_starting {handler : Nat} :
    handler ∈ s.starting key ↔ ∃ scope, (handler, .start scope) ∈ s.handlers ∧ scope.key = key := by
  unfold starting
  rw [List.mem_map]
  constructor
  · rintro ⟨⟨_, waiting⟩, member, rfl⟩
    obtain ⟨waits, starts⟩ := List.mem_filter.mp member
    cases waiting with
    | start scope => exact ⟨scope, waits, Option.some.inj (of_decide_eq_true starts)⟩
    | stop | removal => cases of_decide_eq_true starts
  · rintro ⟨scope, waits, rfl⟩
    exact ⟨(handler, .start scope), List.mem_filter.mpr ⟨waits, decide_eq_true rfl⟩, rfl⟩

/-- The handlers that wait for a start are found by what they wait for. -/
theorem Sound.mem_starting_iff (h : s.Sound) {handler : Nat} :
    handler ∈ s.starting key ↔ (s.waiting? handler).bind (·.startKey?) = some key := by
  rw [mem_starting, Option.bind_eq_some_iff]
  constructor
  · rintro ⟨scope, waits, same⟩
    exact ⟨.start scope, h.waiting?_eq_some_iff.mpr waits, congrArg some same⟩
  · rintro ⟨waiting, waits, starts⟩
    cases waiting with
    | start scope => exact ⟨scope, h.waiting?_eq_some_iff.mp waits, Option.some.inj starts⟩
    | stop | removal => cases starts

/-- A handler that waits for a start concerns the key of the scope alone. -/
theorem Sound.mem_starting_iff_of_waits (h : s.Sound) {handler : Nat} {scope : Scope}
    (waits : s.waiting? handler = some (.start scope)) :
    handler ∈ s.starting key ↔ scope.key = key := by
  rw [h.mem_starting_iff, waits]
  exact Option.some_inj

theorem starting_append {handler : Nat} {waiting : Waiting}
    (added : t.handlers = s.handlers ++ [(handler, waiting)]) :
    t.starting key =
      s.starting key ++ if waiting.startKey? = some key then [handler] else [] := by
  unfold starting
  rw [added, List.filter_append, List.map_append]
  by_cases starts : waiting.startKey? = some key <;> simp [starts]

theorem starting_dropHandler (handler : Nat) :
    (s.dropHandler handler).starting key = (s.starting key).filter (· ≠ handler) := by
  unfold starting dropHandler
  rw [List.filter_map, List.filter_filter, List.filter_filter]
  refine congrArg _ (List.filter_congr fun entry _ => ?_)
  exact Bool.and_comm _ _

/-- A handler that waits for nothing that concerns a key can go without a trace. -/
theorem starting_dropHandler_of_not_mem {handler : Nat} (elsewhere : handler ∉ s.starting key) :
    (s.dropHandler handler).starting key = s.starting key := by
  rw [starting_dropHandler, List.filter_eq_self]
  exact fun other member => decide_eq_true (ne_of_mem_of_not_mem member elsewhere)

theorem mem_dropHandler {handler other : Nat} {waiting : Waiting} :
    (other, waiting) ∈ (s.dropHandler handler).handlers ↔
      (other, waiting) ∈ s.handlers ∧ other ≠ handler := by
  simp [dropHandler]

theorem Sound.dropHandler (h : s.Sound) (handler : Nat) : (s.dropHandler handler).Sound where
  sorted := h.sorted
  own := h.own
  distinct := h.distinct.sublist (List.filter_sublist.map _)
  numbered := fun other member => h.numbered other ((List.filter_sublist.map _).mem member)
  resolved := fun other scope member => h.resolved other scope (mem_dropHandler.mp member).1

/-- A handler with a number that no other one has begins to wait. -/
theorem Sound.push (h : s.Sound) {handler : Nat} (fresh : handler ∉ s.handlers.map (·.1))
    (known : handler < s.nextHandler) {waiting : Waiting}
    (resolved : ∀ scope, waiting = .start scope →
      ∃ w : Workspace, ∃ d, w.resolve s.home d = some scope) :
    Sound { s with handlers := s.handlers ++ [(handler, waiting)] } where
  sorted := h.sorted
  own := h.own
  distinct := by
    rw [List.map_append, List.nodup_append]
    refine ⟨h.distinct, by simp, ?_⟩
    intro old member other new same
    rw [List.map_singleton, List.mem_singleton] at new
    rw [same, new] at member
    exact fresh member
  numbered := by
    intro other member
    rw [List.map_append, List.mem_append, List.map_singleton, List.mem_singleton] at member
    rcases member with old | rfl
    · exact h.numbered other old
    · exact known
  resolved := by
    intro other scope member
    rcases List.mem_append.mp member with old | new
    · exact h.resolved other scope old
    · rw [List.mem_singleton, Prod.mk.injEq] at new
      exact resolved scope new.2.symm

theorem Sound.next (h : s.Sound) : Sound { s with nextHandler := s.nextHandler + 1 } :=
  { h with numbered := fun handler member => Nat.lt_succ_of_lt (h.numbered handler member) }

theorem Sound.next_not_mem (h : s.Sound) : s.nextHandler ∉ s.handlers.map (·.1) :=
  fun member => Nat.lt_irrefl _ (h.numbered _ member)

/-- A registry may forget sessions. -/
theorem Sound.withRegistry (h : s.Sound) {registry : Registry} (sorted : registry.Sorted)
    (stays : ∀ key session, registry.get? key = some session →
      s.registry.get? key = some session) : Sound { s with registry } :=
  { h with
    sorted
    own := fun key session stored => h.own key session (stays key session stored) }

/-! ## Sessions -/

theorem mem_alive {session : Nat} :
    session ∈ s.alive key ↔ ∃ m, s.fleet[session]? = some m ∧ m.live ∧ m.scope.key = key := by
  unfold alive
  rw [List.mem_filter, List.mem_range]
  constructor
  · rintro ⟨_, found⟩
    obtain ⟨m, here, live⟩ := (Option.any_eq_true _ _).mp found
    exact ⟨m, here, by simpa using live⟩
  · rintro ⟨m, here, live, same⟩
    refine ⟨(List.getElem?_eq_some_iff.mp here).1, ?_⟩
    simp [here, live, same]

/-- A stored session that needs to be stopped is alive for its key, and the other way round. -/
theorem Sound.isServed_standing (h : s.Sound) : (s.standing key).isServed = s.isServed key := by
  unfold Standing.isServed isServed
  rw [show (s.standing key).stored = s.registry.get? key from rfl]
  cases stored : s.registry.get? key with
  | none => rfl
  | some session =>
      have own := h.own key session stored
      rw [fleetKeys, List.getElem?_map, Option.map_eq_some_iff] at own
      obtain ⟨m, here, same⟩ := own
      rw [Option.any_some, Option.any_some, Bool.eq_iff_iff, List.contains_iff_mem]
      change session ∈ s.alive key ↔ _
      rw [mem_alive, isLive, here, Option.any_some]
      simp [same]

/-- Ending sessions: the member is dead, and serves the same scope as before. -/
structure Ends (f : Member → Member) : Prop where
  scope : ∀ m, (f m).scope = m.scope
  live : ∀ m, (f m).live = false

theorem ends_beginStop : Ends beginStop where
  scope := fun m => by unfold beginStop; split <;> rfl
  live := fun m => by unfold beginStop; split <;> simp_all

theorem ends_crash : Ends fun m => { m with live := false } :=
  ⟨fun _ => rfl, fun _ => rfl⟩

theorem Ends.getElem?_modify {f : Member → Member} (ends : Ends f) {session other : Nat}
    (fleet : List Member) :
    ((fleet.modify session f)[other]?).any (fun m => m.live && m.scope.key = key) =
      ((fleet[other]?).any (fun m => m.live && m.scope.key = key) && other ≠ session) := by
  rw [List.getElem?_modify]
  by_cases here : session = other
  · subst here
    cases fleet[session]? <;> simp [ends.live]
  · cases fleet[other]? <;> simp [here, Ne.symm here]

theorem Ends.alive {f : Member → Member} (ends : Ends f) {session : Nat}
    (changed : t.fleet = s.fleet.modify session f) :
    t.alive key = (s.alive key).filter (· ≠ session) := by
  unfold State.alive
  rw [changed, List.length_modify, List.filter_filter]
  refine List.filter_congr fun other _ => ?_
  rw [ends.getElem?_modify, Bool.and_comm]

theorem Ends.scopes {f : Member → Member} (ends : Ends f) {session : Nat}
    (changed : t.fleet = s.fleet.modify session f) : t.scopes = s.scopes := by
  unfold State.scopes
  refine List.ext_getElem? fun other => ?_
  rw [changed, List.getElem?_map, List.getElem?_map, List.getElem?_modify]
  cases s.fleet[other]? with
  | none => rfl
  | some m => by_cases here : session = other <;> simp [here, ends.scope]

theorem Ends.fleetKeys {f : Member → Member} (ends : Ends f) {session : Nat}
    (changed : t.fleet = s.fleet.modify session f) : t.fleetKeys = s.fleetKeys := by
  have same := congrArg (List.map (·.key)) (ends.scopes changed)
  rw [State.scopes, State.scopes, List.map_map, List.map_map] at same
  exact same

theorem fleetKeys_append {m : Member} (added : t.fleet = s.fleet ++ [m]) :
    t.fleetKeys = s.fleetKeys ++ [m.scope.key] := by
  rw [fleetKeys, added, List.map_append]
  rfl

theorem length_fleetKeys (s : State) : s.fleetKeys.length = s.fleet.length :=
  List.length_map _

theorem Sound.modify (h : s.Sound) {f : Member → Member} (ends : Ends f) (session : Nat) :
    (s.modify session f).Sound :=
  { h with
    own := fun key other stored => by
      rw [ends.fleetKeys rfl]
      exact h.own key other stored }

/-- A stored session is alive for no key but its own. -/
theorem Sound.not_mem_alive (h : s.Sound) {other : ScopeKey} {session : Nat}
    (stored : s.registry.get? other = some session) (differs : key ≠ other) :
    session ∉ s.alive key := by
  intro member
  obtain ⟨m, here, _, same⟩ := mem_alive.mp member
  have own := h.own other session stored
  rw [fleetKeys, List.getElem?_map, here, Option.map_some] at own
  exact differs (same.symm.trans (Option.some.inj own))

/-- To end the session that is stored for another key ends none that is alive for this one. -/
theorem Sound.filter_alive (h : s.Sound) {other : ScopeKey} {session : Nat}
    (stored : s.registry.get? other = some session) (differs : key ≠ other) :
    (s.alive key).filter (· ≠ session) = s.alive key := by
  rw [List.filter_eq_self]
  intro found member
  exact decide_eq_true (ne_of_mem_of_not_mem member (h.not_mem_alive stored differs))

theorem alive_append {m : Member} (live : m.live) (added : t.fleet = s.fleet ++ [m]) :
    t.alive key = s.alive key ++ if m.scope.key = key then [s.fleet.length] else [] := by
  unfold alive
  rw [added, List.length_append, List.length_singleton, List.range_succ, List.filter_append]
  congr 1
  · refine List.filter_congr fun session member => ?_
    rw [List.getElem?_append_left (List.mem_range.mp member)]
  · by_cases same : m.scope.key = key <;> simp [live, same]

end State

end RLanguageHost.Lifecycle
