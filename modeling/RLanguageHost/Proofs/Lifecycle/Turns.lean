import RLanguageHost.Host.Course
import RLanguageHost.Proofs.Host.Reading
import RLanguageHost.Proofs.Lifecycle.Runs
import RLanguageHost.Proofs.Lifecycle.Warrant

/-!
# One event at a time

In whatever turns a host that takes one event at a time has come to its state, no session is left
that nothing needs. Only while folders are being removed, one after the other, those that are not
dealt with yet may still have theirs.
-/

namespace RLanguageHost.Lifecycle.State

variable {s : State}

theorem Warranted.eventsOf (h : s.Warranted [] []) (idle : s.handlers = []) {e : HostEvent}
    (proper : e.IsProper) : (s.run (s.eventsOf e)).Warranted [] [] := by
  cases e with
  | opened d =>
      exact (h.opened proper).step_openDocument idle (Workspace.mem_insertDocument_self d _)
  | closed uri =>
      -- The handler is told the document that was open, or one made up from the URI.
      have known : ((s.workspace.document? uri).getD { uri, language := "" }).uri.IsProper ∧
          ((s.workspace.document? uri).getD { uri, language := "" }).uri.text = uri.text := by
        cases found : s.workspace.document? uri with
        | none => exact ⟨proper, rfl⟩
        | some d =>
            obtain ⟨opened, same⟩ := Workspace.mem_of_document? found
            exact ⟨h.proper d opened, same⟩
      exact (h.closed idle known.1 known.2).step_closeDocument idle
  | foldersChanged added removed =>
      have changed := h.foldersChanged added removed
      cases removed with
      | nil => exact changed
      | cons => exact changed.step_removeFolders idle
  | deactivate => exact { h with }

/-- What holds between the turns of a host that takes one event at a time. -/
structure Tidy (s : State) : Prop where
  sound : s.Sound
  warranted : s.Warranted [] []

theorem Tidy.turn (h : s.Tidy) (t : Turn) : (s.turn t).Tidy := by
  cases t with
  | line line =>
      rw [State.turn]
      split
      · next idle read =>
        exact ⟨h.sound.run _, h.warranted.eventsOf idle (Host.isProper_of_readLine read)⟩
      · exact h
  | startEnded handler result =>
      exact ⟨(h.sound.step (.startEnded handler result)).sound,
        h.warranted.step_startEnded h.sound handler result⟩
  | stopEnded handler result =>
      exact ⟨(h.sound.step (.stopEnded handler result)).sound,
        h.warranted.step_stopEnded handler result⟩
  | crashed session =>
      exact ⟨(h.sound.step (.crashed session)).sound, h.warranted.modify ends_crash session⟩

theorem Tidy.turns (h : s.Tidy) (ts : List Turn) : (s.turns ts).Tidy := by
  induction ts generalizing s with
  | nil => exact h
  | cons t rest ih => exact ih (h.turn t)

theorem Tidy.needed (h : s.Tidy) {key : ScopeKey} {session : Nat}
    (stored : (key, session) ∈ s.registry.sessions) :
    ∃ m, s.fleet[session]? = some m ∧ m.scope.key = key ∧
      Needed s.workspace s.removing m.scope.kind key := by
  have found := h.sound.sorted.mem_sessions_iff.mp stored
  have own := h.sound.own key session found
  rw [fleetKeys, List.getElem?_map, Option.map_eq_some_iff] at own
  obtain ⟨m, here, same⟩ := own
  have known : s.scopes[session]? = some m.scope := by rw [scopes, List.getElem?_map, here]; rfl
  exact ⟨m, here, same, h.warranted.stored key session m.scope found known List.not_mem_nil⟩

/-- A host that takes one event at a time begins without sessions and open documents. Whatever
lines it reads, whichever starts and stops fail and whichever sessions die, every stored session
lies under the key of its own scope. When no handler waits, the workspace needs it: that of a
file for the open document, that of the untitled buffers for an open one, and that of a folder
for the folder. While a handler removes folders, those that it has not come to yet count as well.
-/
theorem stored_sessions_are_needed (home : FilePath) (folders : List Folder) (ts : List Turn) :
    let s := turns { home, workspace := { folders } } ts
    ∀ key session, (key, session) ∈ s.registry.sessions →
      ∃ m, s.fleet[session]? = some m ∧ m.scope.key = key ∧
        (s.handlers = [] → Needed s.workspace [] m.scope.kind key) ∧
        Needed s.workspace s.removing m.scope.kind key := by
  intro s key session stored
  have initial : Tidy { home, workspace := { folders } } :=
    ⟨sound_initial home _, warranted_initial home folders⟩
  obtain ⟨m, here, same, needed⟩ := (initial.turns ts).needed stored
  refine ⟨m, here, same, fun idle => ?_, needed⟩
  rwa [removing_of_idle idle] at needed

/-- A buffer is opened and its session started; when it is closed the session goes. -/
example :
    let opened := turns { home := ⟨[]⟩ }
      [.line (bytesOf "[\"didOpen\",\"untitled:Untitled-1\",\"r\"]"), .startEnded 0 (.ok ())]
    let closed := opened.turns [.line (bytesOf "[\"didClose\",\"untitled:Untitled-1\"]")]
    opened.registry.sessions = [(.untitled, 0)] ∧ closed.registry.sessions = [] := by
  decide +kernel

end RLanguageHost.Lifecycle.State
