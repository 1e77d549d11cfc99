import RLanguageHost.Proofs.Lifecycle.Custody
import RLanguageHost.Proofs.Lifecycle.Sharing
import RLanguageHost.Proofs.Lifecycle.Turns
import RLanguageHost.Proofs.Uri.Text

/-!
# Notebooks whose cells are all closed

The session of a notebook is there for its cells. In a host that takes one event at a time it goes
with the last of them, apart from one case: the close of a cell keeps the session for another cell
whose path has the same components, but the session goes by the text of the path. If the other path
is spelled differently, with a slash more or less or a dot between slashes, the session is left
behind under a key that no open document has.

`Strands` is such a close. It is the only turn after which a notebook's session is left behind, and
it always leaves one behind.
-/

namespace RLanguageHost.Lifecycle

/-- The close of some open document would take out the key. -/
def Attended (w : Workspace) (key : ScopeKey) : Prop :=
  ∃ d ∈ w.documents, ScopeKey.ofClosed d = key

/-! ## Texts and keys -/

/-- A document's key is decided by the text of its URI. -/
theorem ofClosed_eq_of_text_eq {d e : Document} (hd : d.uri.WasRead) (he : e.uri.WasRead)
    (same : d.uri.text = e.uri.text) : ScopeKey.ofClosed d = .ofClosed e := by
  have scheme := Uri.scheme_eq_of_text_eq hd.isProper he.isProper same
  have buffer : d.isUntitled = e.isUntitled := by rw [Document.isUntitled, scheme]; rfl
  have cell : d.isCell = e.isCell := by rw [Document.isCell, scheme]; rfl
  unfold ScopeKey.ofClosed
  rw [← buffer, ← cell]
  split
  · rfl
  · split
    · next isCell =>
      have path : d.filePath? = e.filePath? :=
        Uri.filePath?_eq_of_text_eq hd he (Document.scheme_of_isCell isCell) same
      rw [path, ScopeKey.ofUri, ScopeKey.ofUri, same]
    · exact congrArg ScopeKey.mk same

/-- A document that is opened attends to whatever key the one in its place did. -/
theorem Attended.openDocument {w : Workspace} {key : ScopeKey} (h : Attended w key) {d : Document}
    (read : ∀ e ∈ w.documents, e.uri.WasRead) (own : d.uri.WasRead) :
    Attended (w.openDocument d) key := by
  obtain ⟨e, opened, attends⟩ := h
  rcases Workspace.mem_insertDocument_of_mem (d := d) opened with stays | same
  · exact ⟨e, stays, attends⟩
  · refine ⟨d, Workspace.mem_insertDocument_self d _, ?_⟩
    rw [ofClosed_eq_of_text_eq own (read e opened) same, attends]

namespace State

variable {s : State} {key : ScopeKey}

/-- The session of a notebook is stored under the key. -/
def HoldsNotebook (s : State) (key : ScopeKey) : Prop :=
  ∃ session scope, s.registry.get? key = some session ∧ s.scopes[session]? = some scope ∧
    scope.kind = .notebook

/-- The session of a notebook is stored under the key, and no open document has the key. -/
def Unattended (s : State) (key : ScopeKey) : Prop :=
  s.HoldsNotebook key ∧ ¬ Attended s.workspace key

/-- The close of a URI leaves a notebook's session behind. It closes a cell, and keeps the session
for another open cell with the components of its path, but with another key; no other open document
has the key either. -/
inductive StrandedBy (s : State) (uri : Uri) (key : ScopeKey) : Prop where
  | cell {d e : Document} {p q : FilePath} (stored : s.HoldsNotebook key)
      (closed : s.workspace.document? uri = some d) (cell : d.isCell)
      (path : d.filePath? = some p) (own : key = .notebook p)
      (opened : e ∈ s.workspace.documents) (other : e.uri.text ≠ uri.text) (another : e.isCell)
      (place : e.filePath? = some q) (scheme : d.uri.scheme = e.uri.scheme)
      (same : FilePath.Same p q) (apart : p.text ≠ q.text)
      (alone : ∀ f ∈ s.workspace.documents, f.uri.text ≠ uri.text → ScopeKey.ofClosed f ≠ key)

/-- The turn is a close that leaves a notebook's session behind. -/
def Strands (s : State) (key : ScopeKey) : Turn → Prop
  | .line line => s.handlers = [] ∧
    ∃ uri, Host.readLine line = .event (.closed uri) ∧ s.StrandedBy uri key
  | .startEnded .. | .stopEnded .. | .crashed _ => False

/-! ## What one event does -/

/-- The workspace belongs to the editor. -/
theorem workspace_step {e : Event} (settled : ∀ w, e ≠ .workspaceChanged w) :
    (s.step e).workspace = s.workspace := by
  have recorded : ∀ (t : State) (handler : Nat) (progress : Progress) (registry : Registry),
      (t.record handler progress registry).2.workspace = t.workspace := by
    intro t handler progress registry
    cases progress with
    | finished => rfl
    | suspended waiting => cases waiting <;> rfl
  cases e with
  | job job => exact recorded _ _ _ _
  | startEnded handler result =>
      rw [step, finishStart]
      split
      · cases result <;> rfl
      · rfl
  | stopEnded handler result =>
      rw [step, finishStop]
      split
      · rfl
      · exact recorded _ _ _ _
      · rfl
  | abandoned handler =>
      rw [step, abandonHandler]
      split <;> rfl
  | crashed => rfl
  | deactivated =>
      obtain ⟨fleet, -, steps⟩ := s.step_deactivated_eq
      rw [steps]
  | workspaceChanged w => exact absurd rfl (settled w)

/-- A notebook's session that is stored was stored before, or has just been started. -/
theorem Sound.holdsNotebook_step (h : s.Sound) {e : Event} (holds : (s.step e).HoldsNotebook key) :
    s.HoldsNotebook key ∨ ∃ handler scope, e = .startEnded handler (.ok ()) ∧
      (handler, .start scope) ∈ s.handlers ∧ scope.key = key ∧ scope.kind = .notebook := by
  obtain ⟨session, scope, stored, known, kind⟩ := holds
  have stands := congrArg Standing.stored ((h.step e).standing key)
  rw [show ((s.step e).standing key).stored = some session from stored,
    Standing.stored_apply] at stands
  rw [scopes_step] at known
  split at stands
  · next handler started completed =>
    obtain ⟨rfl, rfl⟩ := eq_startEnded_of_effect completed
    obtain rfl := Option.some.inj stands
    simp only [effect] at completed
    split at completed
    · next starts =>
      obtain ⟨other, waits, same⟩ := mem_starting.mp starts
      refine .inr ⟨handler, other, rfl, waits, same, ?_⟩
      rw [startedBy, h.waiting?_eq_some_iff.mpr waits,
        show s.fleet.length = s.scopes.length from (List.length_map _).symm,
        List.getElem?_concat_length] at known
      obtain rfl := Option.some.inj known
      exact kind
    · cases completed
  · cases stands
  · have here : s.registry.get? key = some session := stands.symm
    have within := (List.getElem?_eq_some_iff.mp (h.own key session here)).1
    rw [length_fleetKeys, show s.fleet.length = s.scopes.length from (List.length_map _).symm]
      at within
    rw [List.getElem?_append_left within] at known
    exact .inl ⟨session, scope, here, known, kind⟩

/-! ## What holds between turns -/

/-- The documents that are open were read, and when the session of a notebook has been started some
cell will attend to it. -/
structure Attentive (s : State) : Prop where
  sound : s.Sound
  read : ∀ d ∈ s.workspace.documents, d.uri.WasRead
  named : ∀ scope ∈ s.scopes, scope.kind = .notebook → ∃ path, scope.key = .notebook path
  starting : ∀ handler scope, (handler, .start scope) ∈ s.handlers → scope.kind = .notebook →
    Attended s.workspace scope.key

theorem attentive_initial (home : FilePath) (folders : List Folder) :
    Attentive { home, workspace := { folders } } where
  sound := sound_initial home _
  read := fun _ none => absurd none List.not_mem_nil
  named := fun _ none => absurd none List.not_mem_nil
  starting := fun _ _ none => absurd none List.not_mem_nil

/-- The scope of a notebook is that of a cell. -/
theorem cell_of_resolve {w : Workspace} {home : FilePath} {d : Document} {scope : Scope}
    (resolved : w.resolve home d = some scope) (kind : scope.kind = .notebook) :
    ∃ path, scope.key = .notebook path ∧ ScopeKey.ofClosed d = .notebook path := by
  have belongs := belongs_of_resolve resolved
  generalize scope.key = key at belongs
  rw [kind] at belongs
  cases belongs with
  | @cell path cell notebook => exact ⟨path, rfl, ScopeKey.ofClosed_of_filePath? cell notebook⟩

/-- No event but a change of the workspace takes the attention from a session. -/
theorem Attentive.step (h : s.Attentive) {e : Event} (settled : ∀ w, e ≠ .workspaceChanged w)
    (opened : ∀ d, e = .job (.openDocument d) → d ∈ s.workspace.documents) :
    (s.step e).Attentive ∧ ∀ key, ¬ s.Unattended key → ¬ (s.step e).Unattended key := by
  have workspace := workspace_step (s := s) settled
  refine ⟨⟨(h.sound.step e).sound, ?_, ?_, ?_⟩, ?_⟩
  · rw [workspace]
    exact h.read
  · intro scope member kind
    rw [scopes_step] at member
    rcases List.mem_append.mp member with before | started
    · exact h.named scope before kind
    · unfold startedBy at started
      split at started
      · split at started
        · next waits =>
          obtain rfl := List.mem_singleton.mp started
          obtain ⟨w, d, resolved⟩ := h.sound.resolved _ _ (h.sound.waiting?_eq_some_iff.mp waits)
          obtain ⟨path, named, -⟩ := cell_of_resolve resolved kind
          exact ⟨path, named⟩
        · cases started
      · cases started
  · intro handler scope waits kind
    rw [workspace]
    rcases (mem_handlers_step waits).imp id Comes.exists_document with
      before | ⟨d, asked, resolved⟩
    · exact h.starting handler scope before kind
    · obtain ⟨path, named, own⟩ := cell_of_resolve resolved kind
      exact ⟨d, opened d asked, own.trans named.symm⟩
  · rintro key attended ⟨holds, unattended⟩
    rw [workspace] at unattended
    rcases h.sound.holdsNotebook_step holds with before | ⟨handler, scope, -, waits, rfl, kind⟩
    · exact attended ⟨before, unattended⟩
    · exact unattended (h.starting handler scope waits kind)

/-! ## What one turn does -/

theorem Attentive.opened (h : s.Attentive) {d : Document} (own : d.uri.WasRead) :
    let t : State := { s with workspace := s.workspace.openDocument d }
    t.Attentive ∧ ∀ key, ¬ s.Unattended key → ¬ t.Unattended key := by
  refine ⟨⟨{ h.sound with }, ?_, h.named, ?_⟩, ?_⟩
  · intro e opened
    rcases Workspace.eq_or_mem_of_mem_insertDocument opened with rfl | before
    · exact own
    · exact h.read e before
  · intro handler scope waits kind
    exact (h.starting handler scope waits kind).openDocument h.read own
  · rintro key attended ⟨holds, unattended⟩
    refine attended ⟨holds, fun before => unattended ?_⟩
    exact before.openDocument h.read own

/-- Where the documents stay the same, so does the attention. -/
theorem Attentive.withWorkspace (h : s.Attentive) {w : Workspace}
    (same : w.documents = s.workspace.documents) :
    let t : State := { s with workspace := w }
    t.Attentive ∧ ∀ key, ¬ s.Unattended key → ¬ t.Unattended key := by
  have attends : ∀ key, Attended w key ↔ Attended s.workspace key := by
    intro key
    rw [Attended, Attended, same]
  refine ⟨⟨{ h.sound with }, same ▸ h.read, h.named, ?_⟩, ?_⟩
  · intro handler scope waits kind
    exact (attends _).mpr (h.starting handler scope waits kind)
  · rintro key attended ⟨holds, unattended⟩
    exact attended ⟨holds, mt (attends key).mpr unattended⟩

theorem Attentive.closed (h : s.Attentive) (idle : s.handlers = []) (uri : Uri) :
    Attentive { s with workspace := s.workspace.closeDocument uri } where
  sound := { h.sound with }
  read := fun d opened => h.read d (Workspace.mem_documents_closeDocument.mp opened).1
  named := h.named
  starting := fun _ _ waits => absurd waits (not_mem_of_idle idle)

/-- A close that is answered by other cells leaves the registry as it is. -/
theorem holdsNotebook_close {d : Document} (needed : stillNeeded s.workspace d) :
    (s.step (.job (.closeDocument d))).HoldsNotebook key ↔ s.HoldsNotebook key := by
  have steps : s.step (.job (.closeDocument d)) = { s with nextHandler := s.nextHandler + 1 } := by
    have retained : closeDocument s.view s.registry d = _ := closeDocument_of_stillNeeded needed
    rw [step, perform]
    simp only [retained]
    rfl
  rw [steps]
  rfl

/-- A close that stops a session leaves none under its key. -/
theorem not_holdsNotebook_close {d : Document} (unneeded : ¬ stillNeeded s.workspace d) :
    ¬ (s.step (.job (.closeDocument d))).HoldsNotebook (.ofClosed d) := by
  rintro ⟨session, -, stored, -⟩
  have clearing := clearing_closeDocument s.view s.registry d
  have gone := clearing.get? (.ofClosed d)
  rw [show s.view.workspace = s.workspace from rfl, if_neg unneeded,
    if_pos (List.mem_singleton.mpr rfl)] at gone
  have registry : (s.step (.job (.closeDocument d))).registry =
      (closeDocument s.view s.registry d).2 := registry_record _ _ _
  rw [registry, gone] at stored
  cases stored

/-- The session of a notebook is stored under the key of a notebook. -/
theorem Attentive.exists_path (h : s.Attentive) (holds : s.HoldsNotebook key) :
    ∃ path, key = .notebook path := by
  obtain ⟨session, scope, stored, placed, kind⟩ := holds
  obtain ⟨path, named⟩ := h.named scope (List.mem_of_getElem? placed) kind
  obtain ⟨own, placed', rfl⟩ := h.sound.exists_scope stored
  cases placed.symm.trans placed'
  exact ⟨path, named⟩

theorem exists_paths_of_sameNotebook {d e : Document} (h : e.sameNotebook d) :
    ∃ p q, e.isCell ∧ d.filePath? = some p ∧ e.filePath? = some q ∧
      d.uri.scheme = e.uri.scheme ∧ FilePath.Same p q := by
  unfold Document.sameNotebook at h
  rw [Bool.and_eq_true, Bool.and_eq_true] at h
  obtain ⟨⟨cell, scheme⟩, same⟩ := h
  split at same
  · next q p place path => exact ⟨p, q, cell, path, place, of_decide_eq_true scheme,
      of_decide_eq_true same⟩
  · cases same

def closing (s : State) (uri : Uri) : Document :=
  (s.workspace.document? uri).getD { uri, language := "" }

theorem closing_of_document? {uri : Uri} {d : Document}
    (found : s.workspace.document? uri = some d) : s.closing uri = d := by
  rw [closing, found, Option.getD_some]

/-- The state after the document of a URI is closed. -/
def afterClose (s : State) (uri : Uri) : State :=
  { s with workspace := s.workspace.closeDocument uri }.step
    (.job (.closeDocument (s.closing uri)))

theorem workspace_afterClose (s : State) (uri : Uri) :
    (s.afterClose uri).workspace = s.workspace.closeDocument uri :=
  workspace_step fun _ => Event.noConfusion

/-- Where an open document had the key of a session, and no other one has it after a close, the
close keeps the session for a cell with another key. -/
theorem Attentive.strandedBy_of_afterClose (h : s.Attentive) (idle : s.handlers = [])
    (attended : ¬ s.Unattended key) {uri : Uri} (left : (s.afterClose uri).Unattended key) :
    s.StrandedBy uri key := by
  obtain ⟨holds, unattended⟩ := left
  rw [workspace_afterClose] at unattended
  have before : s.HoldsNotebook key := by
    rcases (h.closed idle uri).sound.holdsNotebook_step holds with before | ⟨_, _, started, -⟩
    · exact before
    · cases started
  obtain ⟨f, opened, own⟩ := Classical.not_not.mp fun none => attended ⟨before, none⟩
  have closed : f.uri.text = uri.text := Classical.not_not.mp fun other =>
    unattended ⟨f, Workspace.mem_documents_closeDocument.mpr ⟨opened, other⟩, own⟩
  have known : (s.workspace.document? uri).isSome :=
    List.find?_isSome.mpr ⟨f, opened, decide_eq_true closed⟩
  obtain ⟨d, found⟩ := Option.isSome_iff_exists.mp known
  obtain ⟨inside, same⟩ := Workspace.mem_of_document? found
  have ownKey : ScopeKey.ofClosed d = key :=
    (ofClosed_eq_of_text_eq (h.read d inside) (h.read f opened) (same.trans closed.symm)).trans own
  rw [afterClose, closing_of_document? found] at holds
  have needed : stillNeeded (s.workspace.closeDocument uri) d := by
    refine Classical.not_not.mp fun unneeded => ?_
    rw [← ownKey] at holds
    exact not_holdsNotebook_close unneeded holds
  obtain ⟨notebook, named⟩ := h.exists_path before
  have buffer : ¬ d.isUntitled := fun untitled => ScopeKey.notebook_ne_untitled <|
    named.symm.trans (ownKey.symm.trans (ScopeKey.ofClosed_of_isUntitled untitled))
  have cell : d.isCell := Classical.not_not.mp fun plain => not_stillNeeded buffer plain needed
  obtain ⟨e, stays, other, together⟩ := (stillNeeded_iff_of_isCell cell).mp needed
  obtain ⟨p, q, another, path, place, scheme, samePath⟩ := exists_paths_of_sameNotebook together
  have ownPath : key = .notebook p :=
    ownKey.symm.trans (ScopeKey.ofClosed_of_filePath? cell path)
  have opened := (Workspace.mem_documents_closeDocument.mp stays).1
  have apart : e.uri.text ≠ uri.text := fun alike => other (alike.trans same.symm)
  refine .cell before found cell path ownPath opened apart another place scheme samePath ?_ ?_
  · intro alike
    refine unattended ⟨e, stays, ?_⟩
    rw [ScopeKey.ofClosed_of_filePath? another place, ownPath]
    exact ScopeKey.notebook_eq_notebook_iff.mpr alike.symm
  · exact fun f opened other attends =>
      unattended ⟨f, Workspace.mem_documents_closeDocument.mpr ⟨opened, other⟩, attends⟩

/-- Such a close is answered by the other cell, so the session stays. -/
theorem StrandedBy.unattended {uri : Uri} (h : s.StrandedBy uri key) :
    (s.afterClose uri).Unattended key := by
  obtain ⟨holds, found, cell, path, rfl, opened, other, another, place, scheme, same, -, alone⟩ := h
  next d e p q =>
  obtain ⟨-, text⟩ := Workspace.mem_of_document? found
  have needed : stillNeeded (s.workspace.closeDocument uri) d := by
    rw [stillNeeded_iff_of_isCell cell]
    have apart : e.uri.text ≠ d.uri.text := fun alike => other (alike.trans text)
    refine ⟨e, Workspace.mem_documents_closeDocument.mpr ⟨opened, other⟩, apart, ?_⟩
    exact (sameNotebook_iff another path place).mpr ⟨scheme, same⟩
  rw [Unattended, workspace_afterClose, afterClose, closing_of_document? found]
  refine ⟨(holdsNotebook_close needed).mpr holds, ?_⟩
  rintro ⟨f, stays, attends⟩
  obtain ⟨opened, other⟩ := Workspace.mem_documents_closeDocument.mp stays
  exact alone f opened other attends

/-- A close at which no session was left behind leaves one behind exactly if it keeps it for a cell
with another key. -/
theorem Attentive.unattended_close_iff (h : s.Attentive) (idle : s.handlers = [])
    (attended : ¬ s.Unattended key) (uri : Uri) :
    (s.run (s.eventsOf (.closed uri))).Unattended key ↔ s.StrandedBy uri key := by
  have closed : s.run (s.eventsOf (.closed uri)) = s.afterClose uri := rfl
  rw [closed]
  exact ⟨h.strandedBy_of_afterClose idle attended, StrandedBy.unattended⟩

/-- No event of the editor but a close takes the attention from a session. -/
theorem Attentive.eventsOf (h : s.Attentive) (idle : s.handlers = []) {e : HostEvent}
    (read : e.WasRead) : (s.run (s.eventsOf e)).Attentive ∧
      ∀ key, ¬ s.Unattended key → (∀ uri, e ≠ .closed uri) →
        ¬ (s.run (s.eventsOf e)).Unattended key := by
  cases e with
  | opened d =>
      obtain ⟨opened, kept⟩ := h.opened read
      obtain ⟨stepped, kept'⟩ := opened.step (e := .job (.openDocument d))
        (fun _ => Event.noConfusion) fun _ same => by
          cases same
          exact Workspace.mem_insertDocument_self d _
      exact ⟨stepped, fun key attended _ => kept' key (kept key attended)⟩
  | closed uri =>
      obtain ⟨stepped, -⟩ := (h.closed idle uri).step
        (e := .job (.closeDocument (s.closing uri))) (fun _ => Event.noConfusion)
        fun _ => by rintro ⟨⟩
      exact ⟨stepped, fun _ _ other => absurd rfl (other uri)⟩
  | foldersChanged added removed =>
      obtain ⟨sameAdded, -⟩ := Workspace.addFolders_keeps added s.workspace
      obtain ⟨sameRemoved, -⟩ := Workspace.removeFolders_keeps removed
        (added.foldl Workspace.addFolder s.workspace)
      obtain ⟨changed, kept⟩ := h.withWorkspace (sameRemoved.trans sameAdded)
      cases removed with
      | nil => exact ⟨changed, fun key attended _ => kept key attended⟩
      | cons first rest =>
          obtain ⟨stepped, kept'⟩ := changed.step
            (e := .job (.removeFolders (first :: rest))) (fun _ => Event.noConfusion)
            fun _ => by rintro ⟨⟩
          exact ⟨stepped, fun key attended _ => kept' key (kept key attended)⟩
  | deactivate => exact ⟨h, fun _ attended _ => attended⟩

/-- Sessions that start, stop and die take no attention. -/
theorem Attentive.turn_of_session (h : s.Attentive) {t : Turn} (own : ∀ line, t ≠ .line line) :
    (s.turn t).Attentive ∧ ∀ key, ¬ s.Unattended key → ¬ (s.turn t).Unattended key := by
  have step : ∀ e : Event, (∀ w, e ≠ .workspaceChanged w) → (∀ job, e ≠ .job job) →
      (s.step e).Attentive ∧ ∀ key, ¬ s.Unattended key → ¬ (s.step e).Unattended key :=
    fun e settled noJob => h.step settled fun d same => absurd same (noJob _)
  cases t with
  | line line => exact absurd rfl (own line)
  | startEnded handler result =>
      exact step (.startEnded handler result) (fun _ => Event.noConfusion)
        fun _ => Event.noConfusion
  | stopEnded handler result =>
      exact step (.stopEnded handler result) (fun _ => Event.noConfusion)
        fun _ => Event.noConfusion
  | crashed session =>
      exact step (.crashed session) (fun _ => Event.noConfusion) fun _ => Event.noConfusion

theorem Attentive.turn (h : s.Attentive) (t : Turn) : (s.turn t).Attentive := by
  cases t with
  | line line =>
      rw [State.turn]
      split
      · next idle read => exact (h.eventsOf idle (Host.wasRead_of_readLine read)).1
      · exact h
  | startEnded | stopEnded | crashed =>
      exact (h.turn_of_session fun _ => Turn.noConfusion).1

theorem Attentive.turns (h : s.Attentive) (ts : List Turn) : (s.turns ts).Attentive := by
  induction ts generalizing s with
  | nil => exact h
  | cons t rest ih => exact ih (h.turn t)

/-- While an open document attends to the session of a notebook, it is left behind exactly at a turn
that strands it. -/
theorem Attentive.unattended_turn_iff (h : s.Attentive) (attended : ¬ s.Unattended key)
    (t : Turn) : (s.turn t).Unattended key ↔ s.Strands key t := by
  cases t with
  | line line =>
      rw [State.turn, Strands]
      split
      · next e idle read =>
        have wasRead := Host.wasRead_of_readLine read
        by_cases closes : ∃ uri, e = .closed uri
        · obtain ⟨uri, rfl⟩ := closes
          rw [h.unattended_close_iff idle attended uri]
          refine ⟨fun stranded => ⟨idle, uri, read, stranded⟩, ?_⟩
          rintro ⟨-, other, read', stranded⟩
          cases read.symm.trans read'
          exact stranded
        · refine iff_of_false ?_ ?_
          · exact (h.eventsOf idle wasRead).2 key attended fun uri same => closes ⟨uri, same⟩
          · rintro ⟨-, uri, read', -⟩
            cases read.symm.trans read'
            exact closes ⟨uri, rfl⟩
      · next busy =>
        refine iff_of_false attended ?_
        rintro ⟨idle, uri, read, -⟩
        exact busy _ idle read
  | startEnded | stopEnded | crashed =>
      exact iff_of_false ((h.turn_of_session fun _ => Turn.noConfusion).2 key attended) id

/-- What fails after some turns and held before has failed at one of them. -/
theorem Attentive.exists_strands (h : s.Attentive) (attended : ¬ s.Unattended key)
    (ts : List Turn) (left : (s.turns ts).Unattended key) :
    ∃ before t after, ts = before ++ t :: after ∧ (s.turns before).Strands key t := by
  induction ts generalizing s with
  | nil => exact absurd left attended
  | cons t rest ih =>
      by_cases strands : s.Strands key t
      · exact ⟨[], t, rest, rfl, strands⟩
      · have attended' := mt (h.unattended_turn_iff attended t).mp strands
        obtain ⟨before, u, after, rfl, later⟩ := ih (h.turn t) attended' left
        exact ⟨t :: before, u, after, rfl, later⟩

/-- A host that takes one event at a time begins without sessions and open documents. Whatever lines
it reads, whichever starts and stops fail and whichever sessions die, the session of a notebook that
is stored while no open document has its key has been left behind by a close that kept it for a cell
with another key. Such a close always leaves it behind, and as long as some open document has the
key no other turn does. -/
theorem left_behind_iff_stranded (home : FilePath) (folders : List Folder) (ts : List Turn)
    (key : ScopeKey) :
    let s := turns { home, workspace := { folders } } ts
    (s.Unattended key → ∃ before t after, ts = before ++ t :: after ∧
        (turns { home, workspace := { folders } } before).Strands key t) ∧
      (¬ s.Unattended key → ∀ t, (s.turn t).Unattended key ↔ s.Strands key t) := by
  intro s
  have initial : Attentive { home, workspace := { folders } } := attentive_initial home folders
  refine ⟨fun left => initial.exists_strands ?_ ts left, fun attended t => ?_⟩
  · rintro ⟨⟨_, _, stored, -⟩, -⟩
    cases stored
  · exact (initial.turns ts).unattended_turn_iff attended t

/-! ## A notebook under two spellings -/

/-- A cell of a notebook is opened, then one whose path has a slash too many, and the first one is
closed. -/
def spellings : List Turn :=
  [.line (bytesOf "[\"didOpen\",\"notebook-cell:/n/a#1\",\"r\"]"), .startEnded 0 (.ok ()),
    .line (bytesOf "[\"didOpen\",\"notebook-cell:/n//a#2\",\"r\"]"), .startEnded 1 (.ok ()),
    .line (bytesOf "[\"didClose\",\"notebook-cell:/n/a#1\"]")]

theorem unattended_of {session : Nat} (stored : s.registry.get? key = some session)
    (kind : (s.scopes[session]?).map (·.kind) = some .notebook)
    (others : ∀ d ∈ s.workspace.documents, ScopeKey.ofClosed d ≠ key) : s.Unattended key := by
  obtain ⟨scope, here, notebook⟩ := Option.map_eq_some_iff.mp kind
  refine ⟨⟨session, scope, stored, here, notebook⟩, ?_⟩
  rintro ⟨d, opened, attends⟩
  exact others d opened attends

theorem unattended_spellings :
    (turns { home := ⟨[]⟩ } spellings).Unattended (.notebook (.ofString "/n/a")) := by
  have facts : (turns { home := ⟨[]⟩ } spellings).registry.get?
        (.notebook (.ofString "/n/a")) = some 0 ∧
      ((turns { home := ⟨[]⟩ } spellings).scopes[0]?).map (·.kind) = some .notebook ∧
      ∀ d ∈ (turns { home := ⟨[]⟩ } spellings).workspace.documents,
        ScopeKey.ofClosed d ≠ .notebook (.ofString "/n/a") := by
    decide +kernel
  exact unattended_of facts.1 facts.2.1 facts.2.2

/-- The session stays although no open document has its key. -/
theorem notebook_session_left_behind :
    ¬ ∀ ts key, ¬ (turns { home := ⟨[]⟩ } ts).Unattended key :=
  fun never => never _ _ unattended_spellings

/-- It was a close that left it behind. -/
theorem left_behind_iff_stranded_spellings :
    (turns { home := ⟨[]⟩ } spellings).Unattended (.notebook (.ofString "/n/a")) ∧
      ∃ before t after, spellings = before ++ t :: after ∧
        (turns { home := ⟨[]⟩ } before).Strands (.notebook (.ofString "/n/a")) t :=
  ⟨unattended_spellings, (left_behind_iff_stranded ⟨[]⟩ [] spellings _).1 unattended_spellings⟩

end State

end RLanguageHost.Lifecycle
