import RLanguageHost.Proofs.Lifecycle.Effects
import RLanguageHost.Proofs.Scope.Belonging
import RLanguageHost.Proofs.Uri.Scheme
import RLanguageHost.Proofs.Workspace

/-!
# What sessions are there for

A session is warranted by the workspace: that of a file by the open document, that of the untitled
buffers by any such buffer, that of a folder by the folder. `Needed` says so of a kind of scope and
a key, and `Warranted` of all sessions that are stored or being started.

While an event is being handled there are exceptions for a moment. A folder that is gone from the
workspace still has its session until a handler comes to it, and a document that is gone until its
close is handled. The invariant carries both exceptions, and the handlers use them up.

Nothing is said about notebooks: the name of a notebook does not tell all its cells.
-/

namespace RLanguageHost.Lifecycle

/-! ## Whether a session is still needed -/

section

variable {w : Workspace} {d : Document}

theorem stillNeeded_iff_of_isUntitled (untitled : d.isUntitled) :
    stillNeeded w d ↔ ∃ e ∈ w.documents, e.uri.text ≠ d.uri.text ∧ e.isUntitled := by
  rw [stillNeeded, if_pos untitled]
  simp

theorem stillNeeded_iff_of_isCell (cell : d.isCell) :
    stillNeeded w d ↔ ∃ e ∈ w.documents, e.uri.text ≠ d.uri.text ∧ e.sameNotebook d := by
  have named : ¬ d.isUntitled := fun untitled => Document.not_isCell_of_isUntitled untitled cell
  rw [stillNeeded, if_neg named, if_pos cell]
  simp

/-- A document that shares its session with no other needs it no more. -/
theorem not_stillNeeded (named : ¬ d.isUntitled) (plain : ¬ d.isCell) : ¬ stillNeeded w d := by
  rw [stillNeeded, if_neg named, if_neg plain]
  exact Bool.false_ne_true

end

/-! ## What warrants a session -/

/-- What warrants a session: something in the workspace, or a folder that is about to be removed. -/
inductive Needed (w : Workspace) (leaving : List Folder) : ScopeKind → ScopeKey → Prop where
  | notebook {key : ScopeKey} : Needed w leaving .notebook key
  | inFolder {f : Folder} (known : f ∈ w.folders ∨ f ∈ leaving) :
      Needed w leaving .workspaceFolder (.ofFolder f)
  | buffer {d : Document} (opened : d ∈ w.documents) (untitled : d.isUntitled) :
      Needed w leaving .untitled .untitled
  | stray {d : Document} (opened : d ∈ w.documents) (file : d.isFile) :
      Needed w leaving .strayFile (.ofUri d.uri)

namespace Needed

variable {w w' : Workspace} {leaving leaving' : List Folder} {kind : ScopeKind} {key : ScopeKey}

/-- An open document warrants the session of its scope. -/
theorem of_resolve {home : FilePath} {d : Document} {scope : Scope} (opened : d ∈ w.documents)
    (resolved : w.resolve home d = some scope) : Needed w [] scope.kind scope.key := by
  have belongs := belongs_of_resolve resolved
  generalize scope.kind = kind at belongs
  generalize scope.key = key at belongs
  cases belongs with
  | cell => exact .notebook
  | inFolder inside => exact .inFolder (.inl (Workspace.mem_folders_of_folderFor? inside).2)
  | buffer untitled => exact .buffer opened untitled
  | stray file => exact .stray opened file

/-- Another folder with the same URI will do. -/
theorem mono_folders (h : Needed w leaving kind key) (documents : w'.documents = w.documents)
    (folders : ∀ f, f ∈ w.folders ∨ f ∈ leaving →
      ∃ g, (g ∈ w'.folders ∨ g ∈ leaving') ∧ ScopeKey.ofFolder g = .ofFolder f) :
    Needed w' leaving' kind key := by
  cases h with
  | notebook => exact .notebook
  | inFolder known =>
      obtain ⟨g, known', same⟩ := folders _ known
      rw [← same]
      exact .inFolder known'
  | buffer opened untitled => exact .buffer (documents ▸ opened) untitled
  | stray opened file => exact .stray (documents ▸ opened) file

theorem mono_leaving (h : Needed w leaving kind key) (stay : ∀ f ∈ leaving, f ∈ leaving') :
    Needed w leaving' kind key :=
  h.mono_folders rfl fun f known => ⟨f, known.imp id (stay f), rfl⟩

/-- A document that is opened warrants whatever the one in its place did. -/
theorem openDocument (h : Needed w leaving kind key) {d : Document}
    (proper : ∀ e ∈ w.documents, e.uri.IsProper) (own : d.uri.IsProper) :
    Needed (w.openDocument d) leaving kind key := by
  cases h with
  | notebook => exact .notebook
  | inFolder known => exact .inFolder known
  | @buffer e opened untitled =>
      rcases Workspace.mem_insertDocument_of_mem (d := d) opened with stays | same
      · exact .buffer stays untitled
      · have scheme := Uri.scheme_eq_of_text_eq own (proper e opened) same
        refine .buffer (Workspace.mem_insertDocument_self d _) ?_
        rwa [Document.isUntitled, scheme]
  | @stray e opened file =>
      rcases Workspace.mem_insertDocument_of_mem (d := d) opened with stays | same
      · exact .stray stays file
      · have scheme := Uri.scheme_eq_of_text_eq own (proper e opened) same
        rw [show ScopeKey.ofUri e.uri = .ofUri d.uri from congrArg ScopeKey.mk same.symm]
        refine .stray (Workspace.mem_insertDocument_self d _) ?_
        rwa [Document.isFile, scheme]

/-- When a document is closed, only the session that its close takes out can lose its warrant. -/
theorem closeDocument (h : Needed w leaving kind key) {d : Document} {uri : Uri}
    (proper : ∀ e ∈ w.documents, e.uri.IsProper) (own : d.uri.IsProper)
    (closed : d.uri.text = uri.text) :
    Needed (w.closeDocument uri) leaving kind key ∨
      (¬ stillNeeded (w.closeDocument uri) d ∧ key = .ofClosed d) := by
  cases h with
  | notebook => exact .inl .notebook
  | inFolder known => exact .inl (.inFolder known)
  | @buffer e opened untitled =>
      by_cases same : e.uri.text = uri.text
      · have scheme := Uri.scheme_eq_of_text_eq own (proper e opened) (closed.trans same.symm)
        have own : d.isUntitled := by rwa [Document.isUntitled, scheme]
        by_cases needed : stillNeeded (w.closeDocument uri) d
        · obtain ⟨other, stays, -, untitled⟩ := (stillNeeded_iff_of_isUntitled own).mp needed
          exact .inl (.buffer stays untitled)
        · exact .inr ⟨needed, (ScopeKey.ofClosed_of_isUntitled own).symm⟩
      · exact .inl (.buffer (Workspace.mem_documents_closeDocument.mpr ⟨opened, same⟩) untitled)
  | @stray e opened file =>
      by_cases same : e.uri.text = uri.text
      · have scheme := Uri.scheme_eq_of_text_eq own (proper e opened) (closed.trans same.symm)
        have own : d.isFile := by rwa [Document.isFile, scheme]
        refine .inr ⟨not_stillNeeded (Document.not_isUntitled_of_isFile own)
          (Document.not_isCell_of_isFile own), ?_⟩
        rw [ScopeKey.ofClosed_of_isFile own]
        exact congrArg ScopeKey.mk (same.trans closed.symm)
      · exact .inl (.stray (Workspace.mem_documents_closeDocument.mpr ⟨opened, same⟩) file)

/-- Of the folders that are about to be removed, those whose keys were taken out are done with. -/
theorem of_not_mem (h : Needed w leaving kind key) {keys : List ScopeKey} (fresh : key ∉ keys)
    (left : ∀ f ∈ leaving, ScopeKey.ofFolder f ∈ keys ∨ f ∈ leaving') :
    Needed w leaving' kind key := by
  cases h with
  | notebook => exact .notebook
  | inFolder known =>
      refine .inFolder (known.imp id fun leaves => ?_)
      exact (left _ leaves).resolve_left fresh
  | buffer opened untitled => exact .buffer opened untitled
  | stray opened file => exact .stray opened file

end Needed

/-! ## Handlers -/

/-- The folders that a handler still has to go on with. -/
def Progress.remaining : Progress → List Folder
  | .finished _ => []
  | .suspended waiting => waiting.remaining

/-- Of removed folders, the keys of those before a wait are taken out, and the handler goes on with
the others. -/
theorem reached_or_remaining (stopped : List ScopeKey) {folders : List Folder} {f : Folder}
    (member : f ∈ folders) (r : Registry) :
    ScopeKey.ofFolder f ∈ reached r folders ∨
      f ∈ (removeFolders r stopped folders).1.remaining := by
  induction folders generalizing r with
  | nil => cases member
  | cons first rest ih =>
      rw [reached, removeFolders]
      rcases List.mem_cons.mp member with rfl | later
      · exact .inl List.mem_cons_self
      · cases stored : r.get? (.ofFolder first) with
        | none =>
            have passed := ih later (r.unmark (.ofFolder first))
            rw [reached_congr fun _ => Registry.get?_unmark] at passed
            rw [Registry.remove_of_get?_eq_none stored]
            exact passed.imp (List.mem_cons_of_mem _) id
        | some session =>
            rw [Registry.remove_of_get?_eq_some stored]
            exact .inr later

namespace State

variable {s : State} {leaving : List Folder} {closing : List ScopeKey}

/-! ## Warranted states -/

/-- The removed folders whose sessions are still to be stopped. -/
def removing (s : State) : List Folder :=
  s.handlers.flatMap (·.2.remaining)

/-- Every session that is stored or being started is needed, except for the keys that are about to
be taken out. No two handlers wait at the same time. -/
structure Warranted (s : State) (leaving : List Folder) (closing : List ScopeKey) : Prop where
  proper : ∀ d ∈ s.workspace.documents, d.uri.IsProper
  alone : s.handlers.length ≤ 1
  stored : ∀ key session scope, s.registry.get? key = some session →
    s.scopes[session]? = some scope → key ∉ closing →
    Needed s.workspace (leaving ++ s.removing) scope.kind key
  starting : ∀ handler scope, (handler, .start scope) ∈ s.handlers →
    Needed s.workspace (leaving ++ s.removing) scope.kind scope.key

theorem warranted_initial (home : FilePath) (folders : List Folder) :
    Warranted { home, workspace := { folders } } [] [] where
  proper := by simp
  alone := Nat.zero_le 1
  stored := by simp [Registry.get?]
  starting := by simp

theorem not_mem_of_idle (idle : s.handlers = []) {entry : Nat × Waiting} : entry ∉ s.handlers :=
  idle ▸ List.not_mem_nil

theorem removing_of_idle (idle : s.handlers = []) : s.removing = [] := by
  rw [removing, idle]
  rfl

theorem handlers_of_waiting? (alone : s.handlers.length ≤ 1) {handler : Nat} {waiting : Waiting}
    (waits : s.waiting? handler = some waiting) :
    s.handlers = [(handler, waiting)] := by
  have member : (handler, waiting) ∈ s.handlers := by
    obtain ⟨before, after, split, -⟩ := List.lookup_eq_some_iff.mp waits
    exact split ▸ List.mem_append_right before List.mem_cons_self
  obtain ⟨entry, all⟩ := List.length_eq_one_iff.mp
    (Nat.le_antisymm alone (List.length_pos_of_mem member))
  rw [all] at member ⊢
  rw [List.mem_singleton.mp member]

theorem idle_dropHandler (alone : s.handlers.length ≤ 1) {handler : Nat} {waiting : Waiting}
    (waits : s.waiting? handler = some waiting) : (s.dropHandler handler).handlers = [] := by
  rw [dropHandler, handlers_of_waiting? alone waits]
  simp

/-! ## What the editor changes -/

theorem Warranted.opened (h : s.Warranted [] []) {d : Document} (own : d.uri.IsProper) :
    Warranted { s with workspace := s.workspace.openDocument d } [] [] where
  proper := by
    intro e opened
    rcases Workspace.eq_or_mem_of_mem_insertDocument opened with rfl | before
    · exact own
    · exact h.proper e before
  alone := h.alone
  stored := fun key session scope stored known fresh =>
    (h.stored key session scope stored known fresh).openDocument h.proper own
  starting := fun handler scope waits => (h.starting handler scope waits).openDocument h.proper own

/-- The session that loses its warrant is the one that the close is going to take out. -/
theorem Warranted.closed (h : s.Warranted [] []) (idle : s.handlers = []) {d : Document}
    {uri : Uri} (own : d.uri.IsProper) (closed : d.uri.text = uri.text) :
    Warranted { s with workspace := s.workspace.closeDocument uri } []
      (if stillNeeded (s.workspace.closeDocument uri) d then [] else [ScopeKey.ofClosed d]) where
  proper := fun e opened => h.proper e (Workspace.mem_documents_closeDocument.mp opened).1
  alone := h.alone
  stored := by
    intro key session scope stored known fresh
    have needed := h.stored key session scope stored known (List.not_mem_nil)
    rcases needed.closeDocument h.proper own closed with stays | ⟨unneeded, taken⟩
    · exact stays
    · rw [if_neg unneeded] at fresh
      exact absurd (List.mem_singleton.mpr taken) fresh
  starting := fun _ _ waits => absurd waits (not_mem_of_idle idle)

/-- The sessions that lose their warrants are those of the removed folders. -/
theorem Warranted.foldersChanged (h : s.Warranted [] []) (added removed : List Folder) :
    let folders := added.foldl Workspace.addFolder s.workspace
    Warranted
      { s with workspace := removed.foldl (fun w folder => w.removeFolder folder.uri) folders }
      removed [] := by
  intro folders
  obtain ⟨sameAdded, staysAdded⟩ := Workspace.addFolders_keeps added s.workspace
  obtain ⟨sameRemoved, staysRemoved⟩ := Workspace.removeFolders_keeps removed folders
  have documents := sameRemoved.trans sameAdded
  have keeps : ∀ kind key, Needed s.workspace s.removing kind key →
      Needed (removed.foldl (fun w folder => w.removeFolder folder.uri) folders)
        (removed ++ s.removing) kind key := by
    intro kind key needed
    refine needed.mono_folders documents fun f known => ?_
    rcases known with here | leaves
    · rcases staysRemoved f (staysAdded f here) with stays | ⟨g, gone, same⟩
      · exact ⟨f, .inl stays, rfl⟩
      · exact ⟨g, .inr (List.mem_append_left _ gone), congrArg ScopeKey.mk same⟩
    · exact ⟨f, .inr (List.mem_append_right _ leaves), rfl⟩
  exact {
    proper := fun e opened => h.proper e (documents ▸ opened)
    alone := h.alone
    stored := fun key session scope stored known fresh =>
      keeps _ _ (h.stored key session scope stored known fresh)
    starting := fun handler scope waits => keeps _ _ (h.starting handler scope waits) }

/-! ## What handlers do -/

theorem Warranted.modify (h : s.Warranted leaving closing) {f : Member → Member} (ends : Ends f)
    (session : Nat) : (s.modify session f).Warranted leaving closing :=
  { h with
    stored := fun key other scope stored known => by
      rw [ends.scopes rfl] at known
      exact h.stored key other scope stored known }

/-- A part of a handler that takes keys out deals with all exceptions, or leaves folders to go on
with. -/
theorem Warranted.cleared (h : s.Warranted leaving closing) (idle : s.handlers = [])
    {handler : Nat} {keys : List ScopeKey} {progress : Progress} {registry : Registry}
    (clearing : Clearing s.registry keys (progress, registry))
    (closed : ∀ key ∈ closing, key ∈ keys)
    (left : ∀ f ∈ leaving, ScopeKey.ofFolder f ∈ keys ∨ f ∈ progress.remaining) :
    (s.record handler progress registry).2.Warranted [] [] := by
  have settled : ∀ key session scope, registry.get? key = some session →
      s.scopes[session]? = some scope → Needed s.workspace progress.remaining scope.kind key := by
    intro key session scope stored known
    have before := clearing.get?_of_get? stored
    rw [clearing.get?] at stored
    split at stored
    · cases stored
    · next fresh =>
      have needed := h.stored key session scope before known (mt (closed key) fresh)
      rw [removing_of_idle idle, List.append_nil] at needed
      exact needed.of_not_mem fresh left
  cases clearing.found with
  | nothing =>
      exact {
        proper := h.proper
        alone := h.alone
        stored := fun key session scope stored known _ =>
          (settled key session scope stored known).mono_leaving fun _ none => by cases none
        starting := fun _ _ waits => absurd waits (not_mem_of_idle idle) }
  | @session waiting _ session stops =>
      have handlers : s.handlers ++ [(handler, waiting)] = [(handler, waiting)] := by
        rw [idle, List.nil_append]
      rw [record_of_session? stops, handlers]
      refine Warranted.modify (s := { s with registry, handlers := [(handler, waiting)] }) ?_
        ends_beginStop session
      exact {
        proper := h.proper
        alone := Nat.le_refl 1
        stored := fun key other scope stored known _ =>
          (settled key other scope stored known).mono_leaving fun f stays => by
            simpa [removing, Progress.remaining] using stays
        starting := by
          intro _ scope waits
          obtain ⟨-, rfl⟩ := Prod.mk.inj (List.mem_singleton.mp waits)
          cases stops }

/-! ## Events -/

/-- The handler of an opened document leaves the sessions as they are, and waits at most for the
start of a session that the document warrants. -/
theorem Warranted.step_openDocument (h : s.Warranted [] []) (idle : s.handlers = [])
    {d : Document} (opened : d ∈ s.workspace.documents) :
    (s.step (.job (.openDocument d))).Warranted [] [] := by
  rw [State.step_openDocument]
  obtain ⟨stays, ends⟩ := openDocument_cases s.view s.registry d
  generalize Lifecycle.openDocument s.view s.registry d = result at stays ends
  obtain ⟨progress, registry⟩ := result
  dsimp only at stays ends
  rcases ends with ⟨outcome, rfl⟩ | ⟨scope, resolved, rfl⟩
  · exact { h with
      stored := fun key session other stored => h.stored key session other (stays key ▸ stored) }
  · have handlers : s.handlers ++ [(s.nextHandler, .start scope)] =
        [(s.nextHandler, .start scope)] := by rw [idle, List.nil_append]
    rw [record]
    dsimp only
    rw [handlers]
    exact {
      proper := h.proper
      alone := Nat.le_refl 1
      stored := fun key session other stored known fresh => by
        have needed := h.stored key session other (stays key ▸ stored) known fresh
        rwa [removing_of_idle idle] at needed
      starting := by
        intro _ other waits
        obtain ⟨-, same⟩ := Prod.mk.inj (List.mem_singleton.mp waits)
        cases same
        exact Needed.of_resolve opened resolved }

theorem Warranted.step_closeDocument {d : Document}
    (h : s.Warranted [] (if stillNeeded s.workspace d then [] else [ScopeKey.ofClosed d]))
    (idle : s.handlers = []) : (s.step (.job (.closeDocument d))).Warranted [] [] := by
  have next : Warranted { s with nextHandler := s.nextHandler + 1 } _ _ := { h with }
  exact next.cleared idle (clearing_closeDocument s.view s.registry d) (fun _ => id)
    fun _ none => by cases none

theorem Warranted.step_removeFolders {removed : List Folder} (h : s.Warranted removed [])
    (idle : s.handlers = []) : (s.step (.job (.removeFolders removed))).Warranted [] [] := by
  have next : Warranted { s with nextHandler := s.nextHandler + 1 } _ _ := { h with }
  exact next.cleared idle (clearing_removeFolders s.registry [] removed)
    (fun _ none => by cases none) fun f member => reached_or_remaining [] member s.registry

/-- The handler that waits is the only one, so it can go with what it was to go on with. -/
theorem Warranted.dropHandler (h : s.Warranted [] []) {handler : Nat} {waiting : Waiting}
    (waits : s.waiting? handler = some waiting) :
    (s.dropHandler handler).Warranted waiting.remaining [] where
  proper := h.proper
  alone := by
    rw [idle_dropHandler h.alone waits]
    exact Nat.zero_le 1
  stored := by
    intro key session scope stored known fresh
    have needed := h.stored key session scope stored known fresh
    rw [removing_of_idle (idle_dropHandler h.alone waits), List.append_nil]
    rwa [removing, handlers_of_waiting? h.alone waits, List.nil_append, List.flatMap_singleton]
      at needed
  starting := fun _ _ member =>
    absurd member (not_mem_of_idle (idle_dropHandler h.alone waits))

/-- A session that was needed when its start was asked for still is when it is stored. -/
theorem Warranted.finish (h : s.Warranted [] []) (sound : s.Sound) {handler : Nat} {scope : Scope}
    (waits : s.waiting? handler = some (.start scope)) :
    (s.step (.startEnded handler (.ok ()))).Warranted [] [] := by
  have dropped := h.dropHandler waits
  have needed : Needed s.workspace (s.dropHandler handler).removing scope.kind scope.key := by
    have before := h.starting handler scope (sound.waiting?_eq_some_iff.mp waits)
    rw [removing, handlers_of_waiting? h.alone waits] at before
    rwa [removing_of_idle (idle_dropHandler h.alone waits)]
  rw [step_startEnded_ok waits]
  refine { dropped with stored := ?_ }
  intro key session other stored known fresh
  have listed : (s.scopes ++ [scope])[session]? = some other := by
    rw [← known, scopes, scopes, List.map_append]
    rfl
  dsimp only at stored
  rw [Registry.get?_complete] at stored
  split at stored
  · next same =>
    have last : s.scopes.length = s.fleet.length := List.length_map _
    rw [← Option.some.inj stored, ← last, List.getElem?_concat_length] at listed
    obtain rfl := Option.some.inj listed
    exact same ▸ needed
  · have within := (List.getElem?_eq_some_iff.mp (sound.own key session stored)).1
    rw [length_fleetKeys, show s.fleet.length = s.scopes.length from (List.length_map _).symm]
      at within
    rw [List.getElem?_append_left within] at listed
    exact dropped.stored key session other stored listed fresh

theorem Warranted.step_startEnded (h : s.Warranted [] []) (sound : s.Sound) (handler : Nat)
    (result : Except Session.Error Unit) :
    (s.step (.startEnded handler result)).Warranted [] [] := by
  by_cases starts : ∃ scope, s.waiting? handler = some (.start scope)
  · obtain ⟨scope, waits⟩ := starts
    cases result with
    | ok => exact h.finish sound waits
    | error e =>
        rw [step, finishStart, waits]
        exact { h.dropHandler waits with }
  · rwa [step_startEnded_of_not_waiting (not_exists.mp starts)]

/-- The end of a stop lets a removal of folders go on. -/
theorem Warranted.step_stopEnded (h : s.Warranted [] []) (handler : Nat)
    (result : Except Session.Error Unit) :
    (s.step (.stopEnded handler result)).Warranted [] [] := by
  rw [step, finishStop]
  cases waits : s.waiting? handler with
  | none => exact h
  | some waiting =>
      have dropped := h.dropHandler waits
      cases waiting with
      | start => exact h
      | stop => exact dropped
      | removal key session rest stopped =>
          exact dropped.cleared (idle_dropHandler h.alone waits)
            (clearing_removeFolders s.registry (stopped ++ [key]) rest)
            (fun _ none => by cases none)
            fun f member => reached_or_remaining (stopped ++ [key]) member s.registry

end State

end RLanguageHost.Lifecycle
