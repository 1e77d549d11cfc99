import RLanguageHost.Proofs.Lifecycle.Warrant

/-!
# Closing a document whose session others use

A close that stops a session has looked for other documents that need it: for untitled ones if the
document is untitled, and for cells of its notebook if it is a cell. The session goes by its key
though, and a document belongs to the key of its scope, which the rules decide. `Collides` lists how
an open document can belong to the key that the close takes out although the close has not found it.

Cells whose paths read alike have one key, whatever their schemes; to the close they are cells of
two notebooks. And the key of a closed document can be that of a workspace folder or of a notebook
by its text.
-/

namespace RLanguageHost.Lifecycle

/-- How an open document `e` can need the session that the close of `d` stops. -/
inductive Collides (w : Workspace) (d e : Document) : Prop where
  /-- Cells with one key, but not of one notebook for the close. -/
  | cells {p q : FilePath} (closed : d.isCell) (opened : e.isCell) (ofClosed : d.filePath? = some p)
      (ofOpened : e.filePath? = some q) (alike : p.text = q.text)
      (apart : d.uri.scheme ≠ e.uri.scheme ∨ ¬ FilePath.Same p q)
  /-- The URI of the closed document is the key of a notebook. -/
  | notebook {q : FilePath} (unnamed : ¬ d.isUntitled) (plain : ¬ d.isCell) (opened : e.isCell)
      (ofOpened : e.filePath? = some q) (alike : ScopeKey.ofUri d.uri = .notebook q)
  /-- The key of the closed document is the URI of the folder around the other one. -/
  | folder {f : Folder} (inside : w.folderFor? e.uri = some f)
      (alike : ScopeKey.ofClosed d = .ofFolder f)

variable {w : Workspace} {d e : Document}

theorem sameNotebook_iff {p q : FilePath} (opened : e.isCell) (ofClosed : d.filePath? = some p)
    (ofOpened : e.filePath? = some q) :
    e.sameNotebook d ↔ d.uri.scheme = e.uri.scheme ∧ FilePath.Same p q := by
  unfold Document.sameNotebook
  rw [ofClosed, ofOpened]
  simp [opened]

/-- The close has found no other document, but one belongs to the key that it takes out. -/
theorem collides_of_belongs (unneeded : ¬ stillNeeded w d) (opened : e ∈ w.documents)
    (other : e.uri.text ≠ d.uri.text) {kind : ScopeKind}
    (belongs : Belongs e (w.folderFor? e.uri) kind (.ofClosed d)) : Collides w d e := by
  generalize taken : ScopeKey.ofClosed d = key at belongs
  cases belongs with
  | @cell q cell there =>
      rcases ScopeKey.ofClosed_cases d with ⟨-, key⟩ | ⟨p, closed, here, key⟩ | ⟨unnamed, key⟩
      · exact absurd (taken.symm.trans key) ScopeKey.notebook_ne_untitled
      · refine .cells closed cell here there
          (ScopeKey.notebook_eq_notebook_iff.mp (key.symm.trans taken)) ?_
        rw [← Decidable.not_and_iff_not_or_not, ← sameNotebook_iff cell here there]
        exact fun same => unneeded ((stillNeeded_iff_of_isCell closed).mpr ⟨e, opened, other, same⟩)
      · have alike := key.symm.trans taken
        exact .notebook unnamed (fun closed => ScopeKey.ofUri_ne_notebook_of_isCell closed alike)
          cell there alike
  | inFolder inside => exact .folder inside taken
  | buffer untitled =>
      rcases ScopeKey.ofClosed_cases d with ⟨named, -⟩ | ⟨p, -, -, key⟩ | ⟨-, key⟩
      · have needed := (stillNeeded_iff_of_isUntitled named).mpr ⟨e, opened, other, untitled⟩
        exact absurd needed unneeded
      · exact absurd (key.symm.trans taken) ScopeKey.notebook_ne_untitled
      · exact absurd (key.symm.trans taken) ScopeKey.ofUri_ne_untitled
  | stray file outside =>
      rcases ScopeKey.ofClosed_cases d with ⟨-, key⟩ | ⟨p, -, -, key⟩ | ⟨-, key⟩
      · exact absurd (taken.symm.trans key) ScopeKey.ofUri_ne_untitled
      · exact absurd (taken.symm.trans key) (ScopeKey.ofUri_ne_notebook_of_isFile file)
      · exact absurd (congrArg ScopeKey.text (taken.symm.trans key)) other

section

variable {kind : ScopeKind} {key : ScopeKey} (belongs : Belongs e (w.folderFor? e.uri) kind key)
include belongs

/-- A cell belongs to its notebook, for it lies in no folder. -/
theorem key_eq_notebook (cell : e.isCell) {q : FilePath} (there : e.filePath? = some q) :
    key = .notebook q := by
  cases belongs with
  | cell _ here =>
      obtain rfl := Option.some.inj (here.symm.trans there)
      rfl
  | inFolder inside =>
      have file := decide_eq_true (Workspace.mem_folders_of_folderFor? inside).1
      exact absurd cell (Document.not_isCell_of_isFile file)
  | buffer untitled => exact absurd cell (Document.not_isCell_of_isUntitled untitled)
  | stray file => exact absurd cell (Document.not_isCell_of_isFile file)

/-- A file in a folder belongs to the folder. -/
theorem key_eq_ofFolder {f : Folder} (inside : w.folderFor? e.uri = some f) :
    key = .ofFolder f := by
  have file : e.isFile := decide_eq_true (Workspace.mem_folders_of_folderFor? inside).1
  cases belongs with
  | cell cell => exact absurd cell (Document.not_isCell_of_isFile file)
  | inFolder here =>
      obtain rfl := Option.some.inj (here.symm.trans inside)
      rfl
  | buffer untitled => exact absurd untitled (Document.not_isUntitled_of_isFile file)
  | stray _ outside => cases outside.symm.trans inside

/-- A document that collides with a closed one has the key that the close takes out. -/
theorem Collides.key_eq (h : Collides w d e) : key = .ofClosed d := by
  cases h with
  | cells closed opened here there alike =>
      rw [ScopeKey.ofClosed_of_filePath? closed here, ScopeKey.notebook_eq_notebook_iff.mpr alike]
      exact key_eq_notebook belongs opened there
  | notebook unnamed plain opened there alike =>
      rw [ScopeKey.ofClosed_of_not_isCell unnamed plain, alike]
      exact key_eq_notebook belongs opened there
  | folder inside alike =>
      rw [alike]
      exact key_eq_ofFolder belongs inside

end

theorem closeDocument_eq_stop {view : View} {r after : Registry} {key : ScopeKey} {session : Nat}
    (stops : closeDocument view r d = (.suspended (.stop key session), after)) :
    ¬ stillNeeded view.workspace d ∧ key = .ofClosed d := by
  by_cases needed : stillNeeded view.workspace d
  · rw [closeDocument_of_stillNeeded needed] at stops
    cases stops
  · refine ⟨needed, ?_⟩
    cases stored : r.get? (ScopeKey.ofClosed d) with
    | none =>
        rw [closeDocument_of_get?_eq_none needed stored] at stops
        cases stops
    | some =>
        rw [closeDocument_of_get?_eq_some needed stored] at stops
        cases stops
        rfl

/-- A close that stops a session takes it from another open document that has a scope exactly if the
two documents collide. -/
theorem close_takes_session_iff {view : View} {r after : Registry} {d : Document} {key : ScopeKey}
    {session : Nat} (stops : closeDocument view r d = (.suspended (.stop key session), after)) :
    finishClose key (.ok ()) = .closed (.stopped key) ∧
      ∀ e ∈ view.workspace.documents, e.uri.text ≠ d.uri.text →
        ∀ scope, view.workspace.resolve view.home e = some scope →
          (scope.key = key ↔ Collides view.workspace d e) := by
  obtain ⟨unneeded, rfl⟩ := closeDocument_eq_stop stops
  refine ⟨rfl, fun e opened other scope resolved => ?_⟩
  have belongs := belongs_of_resolve resolved
  constructor
  · intro same
    rw [same] at belongs
    exact collides_of_belongs unneeded opened other belongs
  · exact fun collides => collides.key_eq belongs

/-! ## Cells of one notebook -/

/-- An R cell of a notebook. -/
def cell (scheme name : String) : Document where
  uri :=
    { scheme
      authority := none
      path := "/a.Rmd"
      query := none
      fragment := some name }
  language := rLanguage

/-- Two cells of one notebook are open, and one of them is closed. Their schemes differ, so they
collide, and the other cell has the scope whose session is stopped. -/
theorem close_takes_session_iff_cells :
    let first := cell "vscode-notebook-cell" "first"
    let second := cell "notebook-cell" "second"
    let w : Workspace := { documents := [second] }
    let view : View := { home := ⟨[]⟩, workspace := w, live := fun _ => true }
    let key : ScopeKey := ⟨"vscode-notebook:/a.Rmd"⟩
    closeDocument view { sessions := [(key, 0)] } first = (.suspended (.stop key 0), {}) ∧
      (∃ scope, w.resolve view.home second = some scope ∧ scope.key = key) ∧
      Collides w first second := by
  intro first second w view key
  have unneeded : ¬ stillNeeded view.workspace first := by decide +kernel
  have named : ScopeKey.ofClosed first = key := by decide +kernel
  have stops : closeDocument view { sessions := [(key, 0)] } first =
      (.suspended (.stop key 0), {}) := by
    have stored : Registry.get? { sessions := [(key, 0)] } (.ofClosed first) = some 0 := by
      rw [named]
      rfl
    rw [closeDocument_of_get?_eq_some unneeded stored, named]
    rfl
  have found : (w.resolve view.home second).map (·.key) = some key := by decide +kernel
  obtain ⟨scope, resolved, same⟩ := Option.map_eq_some_iff.mp found
  obtain ⟨-, takes⟩ := close_takes_session_iff stops
  have collides := takes second List.mem_cons_self (by decide) scope resolved
  exact ⟨stops, ⟨scope, resolved, same⟩, collides.mp same⟩

/-- A cell is opened and its session started, then another one of the notebook, which finds the
session. The first cell is closed, and the close answers that the session was stopped. It is that of
the second cell, which is left without one. -/
theorem cell_loses_session :
    let first := cell "vscode-notebook-cell" "first"
    let second := cell "notebook-cell" "second"
    let key : ScopeKey := ⟨"vscode-notebook:/a.Rmd"⟩
    let s := State.run { home := ⟨[]⟩ }
      [.workspaceChanged { documents := [first] }, .job (.openDocument first),
        .startEnded 0 (.ok ()), .workspaceChanged { documents := [second, first] },
        .job (.openDocument second)]
    let t := s.run [.workspaceChanged { documents := [second] }, .job (.closeDocument first)]
    let (answer, u) := t.finishStop 2 (.ok ())
    s.sessionFor? second = some 0 ∧ s.isLive 0 ∧
      (answer matches some (.closed (.stopped ⟨"vscode-notebook:/a.Rmd"⟩))) ∧
      second ∈ u.workspace.documents ∧ second.uri.text ≠ first.uri.text ∧
      (u.workspace.resolve u.home second).map (·.key) = some key ∧
      u.sessionFor? second = none ∧ ¬ u.isLive 0 := by
  decide +kernel

end RLanguageHost.Lifecycle
