import RLanguageHost.Proofs.Uri.Scheme
import RLanguageHost.Scope.Basic
import RLanguageHost.Scope.Rule

/-!
# Why a document has its scope

A scope that the rules name for a document tells which of them has decided. `Belongs` lists the four
ways with what each says about the document and about the key; a document has one scheme, so it can
belong to a scope in one way only.

`Assigned` is the whole table without its order: the scopes that documents have, with all that is
said of them. A document has the scope that the table gives it, and a document without one is
ignored by a rule, so the rules never all pass.

The key that the close of a document takes out goes by the scheme alone. Keys of different make can
have one text all the same: that of a notebook is no URI, but reads like one of the scheme
`vscode-notebook`. The key of the untitled buffers is the only one without a colon.
-/

namespace RLanguageHost

/-! ## Schemes -/

namespace Document

variable {d : Document}

theorem not_isCell_of_isUntitled (untitled : d.isUntitled) : ¬ d.isCell := by
  rw [isCell, of_decide_eq_true untitled]
  decide

theorem not_isCell_of_isFile (file : d.isFile) : ¬ d.isCell := by
  rw [isCell, of_decide_eq_true file]
  decide

theorem not_isUntitled_of_isFile (file : d.isFile) : ¬ d.isUntitled := by
  rw [isUntitled, of_decide_eq_true file]
  decide

theorem isProper_of_isFile (file : d.isFile) : d.uri.IsProper := by
  rw [Uri.IsProper, of_decide_eq_true file]
  decide

theorem scheme_of_isCell (cell : d.isCell) :
    d.uri.scheme = "vscode-notebook-cell" ∨ d.uri.scheme = "notebook-cell" := by
  simpa [isCell, cellSchemes] using cell

theorem isProper_of_isCell (cell : d.isCell) : d.uri.IsProper := by
  rcases scheme_of_isCell cell with scheme | scheme
  all_goals
    rw [Uri.IsProper, scheme]
    decide

end Document

namespace ScopeKey

variable {d : Document} {uri : Uri} {path : FilePath}

/-! ## Keys of closed documents -/

theorem ofClosed_of_isUntitled (buffer : d.isUntitled) : ofClosed d = untitled := by
  rw [ofClosed, if_pos buffer]

theorem ofClosed_of_filePath? (cell : d.isCell) (h : d.filePath? = some path) :
    ofClosed d = notebook path := by
  have named : ¬ d.isUntitled := fun buffer => Document.not_isCell_of_isUntitled buffer cell
  rw [ofClosed, if_neg named, if_pos cell, h]

theorem ofClosed_of_not_isCell (named : ¬ d.isUntitled) (plain : ¬ d.isCell) :
    ofClosed d = ofUri d.uri := by
  rw [ofClosed, if_neg named, if_neg plain]

theorem ofClosed_of_isFile (file : d.isFile) : ofClosed d = ofUri d.uri :=
  ofClosed_of_not_isCell (Document.not_isUntitled_of_isFile file)
    (Document.not_isCell_of_isFile file)

theorem ofClosed_cases (d : Document) :
    d.isUntitled ∧ ofClosed d = untitled ∨
      (∃ path, d.isCell ∧ d.filePath? = some path ∧ ofClosed d = notebook path) ∨
      ¬ d.isUntitled ∧ ofClosed d = ofUri d.uri := by
  by_cases buffer : d.isUntitled
  · exact .inl ⟨buffer, ofClosed_of_isUntitled buffer⟩
  · by_cases cell : d.isCell
    · cases here : d.filePath? with
      | some path => exact .inr (.inl ⟨path, cell, rfl, ofClosed_of_filePath? cell here⟩)
      | none =>
          refine .inr (.inr ⟨buffer, ?_⟩)
          rw [ofClosed, if_neg buffer, if_pos cell, here]
    · exact .inr (.inr ⟨buffer, ofClosed_of_not_isCell buffer cell⟩)

/-! ## Keys with one text -/

theorem ofUri_ne_untitled : ofUri uri ≠ untitled := fun same =>
  uri.text_ne_of_not_mem (by decide) (congrArg text same)

theorem notebook_ne_untitled : notebook path ≠ untitled := by
  intro same
  have colon : ':' ∈ (notebookMark ++ path.text).toList := by
    rw [String.toList_append]
    exact List.mem_append_left _ (by decide)
  rw [show notebookMark ++ path.text = "untitled" from congrArg text same] at colon
  exact absurd colon (by decide)

theorem notebook_eq_notebook_iff {other : FilePath} :
    notebook path = notebook other ↔ path.text = other.text := by
  constructor
  · intro same
    have texts : notebookMark ++ path.text = notebookMark ++ other.text := congrArg text same
    rw [← String.toList_inj, String.toList_append, String.toList_append] at texts
    exact String.toList_inj.mp (List.append_cancel_left texts)
  · intro same
    rw [notebook, notebook, same]

/-- The key of a URI is that of a notebook only if the scheme is `vscode-notebook`. -/
theorem ofUri_ne_notebook (proper : uri.IsProper) (other : uri.scheme ≠ "vscode-notebook") :
    ofUri uri ≠ notebook path := by
  intro same
  have texts : uri.text = notebookMark ++ path.text := congrArg text same
  have before := proper.takeWhile_text
  rw [texts, String.toList_append,
    show notebookMark.toList = "vscode-notebook".toList ++ [':'] from rfl,
    List.append_assoc, List.takeWhile_append_of_pos (by simp)] at before
  refine other (String.toList_inj.mp ?_)
  rw [← before]
  simp

theorem ofUri_ne_notebook_of_isFile (file : d.isFile) : ofUri d.uri ≠ notebook path := by
  refine ofUri_ne_notebook (Document.isProper_of_isFile file) ?_
  rw [of_decide_eq_true file]
  decide

theorem ofUri_ne_notebook_of_isCell (cell : d.isCell) : ofUri d.uri ≠ notebook path := by
  refine ofUri_ne_notebook (Document.isProper_of_isCell cell) ?_
  rcases Document.scheme_of_isCell cell with scheme | scheme
  all_goals
    rw [scheme]
    decide

end ScopeKey

/-! ## The rule that has decided -/

/-- How a document belongs to a scope of a kind with a key, when it lies in the given workspace
folder, if any. -/
inductive Belongs (d : Document) (folder : Option Folder) : ScopeKind → ScopeKey → Prop where
  | cell {path : FilePath} (cell : d.isCell) (notebook : d.filePath? = some path) :
      Belongs d folder .notebook (.notebook path)
  | inFolder {f : Folder} (inside : folder = some f) :
      Belongs d folder .workspaceFolder (.ofFolder f)
  | buffer (untitled : d.isUntitled) : Belongs d folder .untitled .untitled
  | stray (file : d.isFile) (outside : folder = none) : Belongs d folder .strayFile (.ofUri d.uri)

namespace Rule

variable {c : Circumstances} {scope : Scope}

/-- The rule that names the scope is the first one, or the first one passes. -/
theorem belongs_of_decide {rule : Rule} {rest : List Rule}
    (h : decide (rule :: rest) c = .belongs scope) :
    rule c = .belongs scope ∨ (rule c = .pass ∧ decide rest c = .belongs scope) := by
  rw [decide] at h
  split at h
  · next passes => exact .inr ⟨passes, h⟩
  · exact .inl h

theorem supportedScheme_ne_belongs : supportedScheme c ≠ .belongs scope := by
  unfold supportedScheme
  split <;> exact Verdict.noConfusion

theorem targetLanguage_ne_belongs : targetLanguage c ≠ .belongs scope := by
  unfold targetLanguage
  split
  · exact Verdict.noConfusion
  · split <;> exact Verdict.noConfusion

/-! ### The scope that a rule names -/

theorem eq_of_notebookCell (h : notebookCell c = .belongs scope) :
    c.document.isCell ∧ ∃ path, c.document.filePath? = some path ∧
      scope =
        { key := .notebook path
          kind := .notebook
          selector := [filter c.document.uri.scheme (some rLanguage) (some path.text)]
          workingDirectory := path.directory
          folder := c.folder } := by
  unfold notebookCell at h
  split at h
  · cases h
  · next cell =>
    split at h
    · cases h
    · next path here =>
      cases h
      exact ⟨by simpa using cell, path, here, rfl⟩

theorem eq_of_workspaceFolder (h : workspaceFolder c = .belongs scope) :
    ∃ f directory, c.folder = some f ∧ f.path? = some directory ∧
      scope =
        { key := .ofFolder f
          kind := .workspaceFolder
          selector :=
            [filter Uri.fileScheme (some rLanguage) (some (patternBelow directory)),
              filter Uri.fileScheme (some rmdLanguage) (some (patternBelow directory))]
          workingDirectory := directory
          folder := some f } := by
  unfold workspaceFolder at h
  split at h
  · cases h
  · next f inside =>
    split at h
    · cases h
    · next directory place =>
      cases h
      exact ⟨f, directory, inside, place, rfl⟩

theorem eq_of_untitledBuffer (h : untitledBuffer c = .belongs scope) :
    c.document.isUntitled ∧
      scope =
        { key := .untitled
          kind := .untitled
          selector :=
            [filter untitledScheme (some rLanguage) none,
              filter untitledScheme (some rmdLanguage) none]
          workingDirectory := c.home
          folder := none } := by
  unfold untitledBuffer at h
  split at h
  · cases h
  · next untitled =>
    cases h
    exact ⟨by simpa using untitled, rfl⟩

theorem eq_of_strayFile (h : strayFile c = .belongs scope) :
    c.document.isFile ∧ ∃ path, c.document.filePath? = some path ∧
      scope =
        { key := .ofUri c.document.uri
          kind := .strayFile
          selector := [filter Uri.fileScheme none (some path.text)]
          workingDirectory := path.directory
          folder := none } := by
  unfold strayFile at h
  split at h
  · cases h
  · next file =>
    split at h
    · cases h
    · next path here =>
      cases h
      exact ⟨by simpa using file, path, here, rfl⟩

theorem folder_eq_none_of_workspaceFolder (h : workspaceFolder c = .pass) : c.folder = none := by
  unfold workspaceFolder at h
  split at h
  · assumption
  · split at h <;> cases h

/-- The rule of the table that names a scope, and that the document's language passed before. -/
theorem named_of_decide (decided : decide table c = .belongs scope) :
    targetLanguage c = .pass ∧
      (notebookCell c = .belongs scope ∨ workspaceFolder c = .belongs scope ∨
        untitledBuffer c = .belongs scope ∨ c.folder = none ∧ strayFile c = .belongs scope) := by
  rcases belongs_of_decide decided with named | ⟨-, decided⟩
  · exact absurd named supportedScheme_ne_belongs
  rcases belongs_of_decide decided with named | ⟨language, decided⟩
  · exact absurd named targetLanguage_ne_belongs
  refine ⟨language, ?_⟩
  rcases belongs_of_decide decided with named | ⟨-, decided⟩
  · exact .inl named
  rcases belongs_of_decide decided with named | ⟨passed, decided⟩
  · exact .inr (.inl named)
  rcases belongs_of_decide decided with named | ⟨-, decided⟩
  · exact .inr (.inr (.inl named))
  rcases belongs_of_decide decided with named | ⟨-, decided⟩
  · exact .inr (.inr (.inr ⟨folder_eq_none_of_workspaceFolder passed, named⟩))
  · cases decided

end Rule

section

variable {home : FilePath} {d : Document} {folder : Option Folder} {scope : Scope}

theorem decide_of_resolve (h : resolve home d folder = some scope) :
    Rule.decide Rule.table { document := d, folder, home } = .belongs scope := by
  unfold resolve Verdict.scope? at h
  split at h
  · next named =>
    cases h
    exact named
  · cases h

theorem belongs_of_resolve (h : resolve home d folder = some scope) :
    Belongs d folder scope.kind scope.key := by
  obtain ⟨-, named | named | named | ⟨outside, named⟩⟩ :=
    Rule.named_of_decide (decide_of_resolve h)
  · obtain ⟨cell, path, here, rfl⟩ := Rule.eq_of_notebookCell named
    exact .cell cell here
  · obtain ⟨f, directory, inside, -, rfl⟩ := Rule.eq_of_workspaceFolder named
    exact .inFolder inside
  · obtain ⟨untitled, rfl⟩ := Rule.eq_of_untitledBuffer named
    exact .buffer untitled
  · obtain ⟨file, path, -, rfl⟩ := Rule.eq_of_strayFile named
    exact .stray file outside

end

/-! ## The table in one piece -/

/-- The scopes that the table gives to documents, each with all that it says of them. A file outside
every workspace folder is served in any language, everything else in the two languages of the
server; a folder without a directory serves nothing. -/
inductive Assigned (home : FilePath) (d : Document) (folder : Option Folder) : Scope → Prop where
  | notebook {path : FilePath}
      (scheme : d.uri.scheme = "vscode-notebook-cell" ∨ d.uri.scheme = "notebook-cell")
      (language : d.language = "r" ∨ d.language = "rmd") (place : d.filePath? = some path) :
      Assigned home d folder
        { key := ⟨"vscode-notebook:" ++ path.text⟩
          kind := .notebook
          selector := [⟨some d.uri.scheme, some "r", some path.text⟩]
          workingDirectory := path.directory
          folder }
  | workspaceFolder {f : Folder} {directory : FilePath}
      (scheme : d.uri.scheme = "file" ∨ d.uri.scheme = "untitled")
      (language : d.language = "r" ∨ d.language = "rmd") (inside : folder = some f)
      (place : f.path? = some directory) :
      Assigned home d folder
        { key := ⟨f.uri.text⟩
          kind := .workspaceFolder
          selector :=
            [⟨some "file", some "r", some (directory.text ++ "/**/*")⟩,
              ⟨some "file", some "rmd", some (directory.text ++ "/**/*")⟩]
          workingDirectory := directory
          folder := some f }
  | untitled (scheme : d.uri.scheme = "untitled") (language : d.language = "r" ∨ d.language = "rmd")
      (outside : folder = none) :
      Assigned home d folder
        { key := ⟨"untitled"⟩
          kind := .untitled
          selector := [⟨some "untitled", some "r", none⟩, ⟨some "untitled", some "rmd", none⟩]
          workingDirectory := home
          folder := none }
  | strayFile {path : FilePath} (scheme : d.uri.scheme = "file") (outside : folder = none)
      (place : d.filePath? = some path) :
      Assigned home d folder
        { key := ⟨d.uri.text⟩
          kind := .strayFile
          selector := [⟨some "file", none, some path.text⟩]
          workingDirectory := path.directory
          folder := none }

namespace Document

variable {d : Document}

theorem isCell_iff :
    d.isCell ↔ d.uri.scheme = "vscode-notebook-cell" ∨ d.uri.scheme = "notebook-cell" := by
  simp [isCell, cellSchemes]

theorem isFile_iff : d.isFile ↔ d.uri.scheme = "file" :=
  decide_eq_true_iff

theorem isUntitled_iff : d.isUntitled ↔ d.uri.scheme = "untitled" :=
  decide_eq_true_iff

theorem hasTargetLanguage_iff : d.hasTargetLanguage ↔ d.language = "r" ∨ d.language = "rmd" := by
  simp only [hasTargetLanguage, isTargetLanguage, Bool.or_eq_true, decide_eq_true_eq]
  rfl

end Document

namespace Rule

variable {c : Circumstances} {rule : Rule} {f : Folder}

/-! ### The rule that decides -/

theorem decide_of_pass (passes : rule c = .pass) (rest : List Rule) :
    decide (rule :: rest) c = decide rest c := by
  rw [decide, passes]

theorem decide_of_ne_pass (decides : rule c ≠ .pass) (rest : List Rule) :
    decide (rule :: rest) c = rule c := by
  rw [decide]
  split
  · next passes => exact absurd passes decides
  · rfl

theorem decide_unsupported (other : ¬ c.document.isFile) (named : ¬ c.document.isUntitled)
    (plain : ¬ c.document.isCell) : decide table c = .ignore := by
  have ignores : supportedScheme c = .ignore := by
    simp [supportedScheme, other, named, plain]
  rw [table, decide_of_ne_pass (by rw [ignores]; exact Verdict.noConfusion), ignores]

theorem decide_supported
    (supported : c.document.isFile ∨ c.document.isUntitled ∨ c.document.isCell) :
    decide table c = decide table.tail c := by
  refine decide_of_pass ?_ _
  rw [supportedScheme, if_pos (by simpa [or_assoc] using supported)]

theorem decide_foreign
    (supported : c.document.isFile ∨ c.document.isUntitled ∨ c.document.isCell)
    (foreign : ¬ c.document.hasTargetLanguage) (inside : ¬ (c.document.isFile ∧ c.folder = none)) :
    decide table c = .ignore := by
  have ignores : targetLanguage c = .ignore := by
    rw [targetLanguage, if_neg foreign, if_neg (by simpa using inside)]
  rw [decide_supported supported]
  exact (decide_of_ne_pass (by rw [ignores]; exact Verdict.noConfusion) _).trans ignores

/-- The two rules that name no scope let a document pass. -/
theorem decide_served
    (supported : c.document.isFile ∨ c.document.isUntitled ∨ c.document.isCell)
    (served : c.document.hasTargetLanguage ∨ c.document.isFile ∧ c.folder = none) :
    decide table c = decide [notebookCell, workspaceFolder, untitledBuffer, strayFile] c := by
  rw [decide_supported supported]
  refine decide_of_pass ?_ _
  rw [targetLanguage]
  split
  · rfl
  · next foreign => exact if_pos (by simpa [foreign] using served)

theorem decide_cell (cell : c.document.isCell) (language : c.document.hasTargetLanguage) :
    decide table c = notebookCell c := by
  rw [decide_served (.inr (.inr cell)) (.inl language)]
  refine decide_of_ne_pass ?_ _
  rw [notebookCell, cell]
  cases c.document.filePath? <;> exact Verdict.noConfusion

theorem decide_plain (supported : c.document.isFile ∨ c.document.isUntitled)
    (served : c.document.hasTargetLanguage ∨ c.document.isFile ∧ c.folder = none) :
    decide table c = decide [workspaceFolder, untitledBuffer, strayFile] c := by
  have plain : ¬ c.document.isCell :=
    supported.elim Document.not_isCell_of_isFile Document.not_isCell_of_isUntitled
  rw [decide_served (by rwa [← or_assoc, or_iff_left plain]) served]
  exact decide_of_pass (if_pos (by simpa using plain)) _

theorem decide_inside (supported : c.document.isFile ∨ c.document.isUntitled)
    (language : c.document.hasTargetLanguage) (inside : c.folder = some f) :
    decide table c = workspaceFolder c := by
  rw [decide_plain supported (.inl language)]
  refine decide_of_ne_pass ?_ _
  rw [workspaceFolder, inside]
  dsimp only
  cases f.path? <;> exact Verdict.noConfusion

theorem decide_outside (supported : c.document.isFile ∨ c.document.isUntitled)
    (served : c.document.hasTargetLanguage ∨ c.document.isFile) (outside : c.folder = none) :
    decide table c = decide [untitledBuffer, strayFile] c := by
  rw [decide_plain supported (served.imp_right fun file => ⟨file, outside⟩)]
  refine decide_of_pass ?_ _
  rw [workspaceFolder, outside]

theorem decide_buffer (untitled : c.document.isUntitled) (language : c.document.hasTargetLanguage)
    (outside : c.folder = none) : decide table c = untitledBuffer c := by
  rw [decide_outside (.inr untitled) (.inl language) outside]
  refine decide_of_ne_pass ?_ _
  rw [untitledBuffer, untitled]
  exact Verdict.noConfusion

theorem decide_stray (file : c.document.isFile) (outside : c.folder = none) :
    decide table c = strayFile c := by
  have named : ¬ c.document.isUntitled := Document.not_isUntitled_of_isFile file
  rw [decide_outside (.inl file) (.inr file) outside,
    decide_of_pass (if_pos (by simpa using named)) _]
  refine decide_of_ne_pass ?_ _
  rw [strayFile, file]
  cases c.document.filePath? <;> exact Verdict.noConfusion

end Rule

section

variable {home : FilePath} {d : Document} {folder : Option Folder} {scope : Scope}

theorem Assigned.decide_eq (assigned : Assigned home d folder scope) :
    Rule.decide Rule.table { document := d, folder, home } = .belongs scope := by
  cases assigned with
  | notebook scheme language place =>
      have cell : d.isCell := Document.isCell_iff.mpr scheme
      rw [Rule.decide_cell cell (Document.hasTargetLanguage_iff.mpr language), Rule.notebookCell]
      simp only [cell, place]
      rfl
  | workspaceFolder scheme language inside place =>
      have supported : d.isFile ∨ d.isUntitled :=
        scheme.imp Document.isFile_iff.mpr Document.isUntitled_iff.mpr
      rw [Rule.decide_inside supported (Document.hasTargetLanguage_iff.mpr language) inside,
        Rule.workspaceFolder]
      simp only [inside, place]
      rfl
  | untitled scheme language outside =>
      have untitled : d.isUntitled := Document.isUntitled_iff.mpr scheme
      rw [Rule.decide_buffer untitled (Document.hasTargetLanguage_iff.mpr language) outside,
        Rule.untitledBuffer]
      simp only [untitled]
      rfl
  | strayFile scheme outside place =>
      have file : d.isFile := Document.isFile_iff.mpr scheme
      rw [Rule.decide_stray file outside, Rule.strayFile]
      simp only [file, place]
      rfl

theorem ignored_of_cell (cell : d.isCell) (language : d.hasTargetLanguage)
    (nowhere : d.filePath? = none) :
    Rule.decide Rule.table { document := d, folder, home } = .ignore := by
  rw [Rule.decide_cell cell language, Rule.notebookCell]
  simp only [cell, nowhere]
  rfl

theorem ignored_of_folder {f : Folder} (supported : d.isFile ∨ d.isUntitled)
    (language : d.hasTargetLanguage) (nowhere : f.path? = none) :
    Rule.decide Rule.table { document := d, folder := some f, home } = .ignore := by
  rw [Rule.decide_inside supported language rfl, Rule.workspaceFolder]
  simp only [nowhere]

theorem ignored_of_file (file : d.isFile) (nowhere : d.filePath? = none) :
    Rule.decide Rule.table { document := d, folder := none, home } = .ignore := by
  rw [Rule.decide_stray file rfl, Rule.strayFile]
  simp only [file, nowhere]
  rfl

/-- A document that the table gives no scope is ignored by one of its rules. -/
theorem assigned_or_ignored (home : FilePath) (d : Document) (folder : Option Folder) :
    (∃ scope, Assigned home d folder scope) ∨
      Rule.decide Rule.table { document := d, folder, home } = .ignore := by
  by_cases language : d.hasTargetLanguage
  · have spoken := Document.hasTargetLanguage_iff.mp language
    by_cases cell : d.isCell
    · cases place : d.filePath? with
      | some path => exact .inl ⟨_, .notebook (Document.isCell_iff.mp cell) spoken place⟩
      | none => exact .inr (ignored_of_cell cell language place)
    · by_cases supported : d.isFile ∨ d.isUntitled
      · have scheme := supported.imp Document.isFile_iff.mp Document.isUntitled_iff.mp
        cases folder with
        | some f =>
            cases place : f.path? with
            | some directory => exact .inl ⟨_, .workspaceFolder scheme spoken rfl place⟩
            | none => exact .inr (ignored_of_folder supported language place)
        | none =>
            rcases scheme with file | untitled
            · cases place : d.filePath? with
              | some path => exact .inl ⟨_, .strayFile file rfl place⟩
              | none => exact .inr (ignored_of_file (Document.isFile_iff.mpr file) place)
            · exact .inl ⟨_, .untitled untitled spoken rfl⟩
      · rw [not_or] at supported
        exact .inr (Rule.decide_unsupported supported.1 supported.2 cell)
  · by_cases stray : d.isFile ∧ folder = none
    · obtain ⟨file, rfl⟩ := stray
      cases place : d.filePath? with
      | some path => exact .inl ⟨_, .strayFile (Document.isFile_iff.mp file) rfl place⟩
      | none => exact .inr (ignored_of_file file place)
    · by_cases supported : d.isFile ∨ d.isUntitled ∨ d.isCell
      · exact .inr (Rule.decide_foreign supported language stray)
      · simp only [not_or] at supported
        exact .inr (Rule.decide_unsupported supported.1 supported.2.1 supported.2.2)

/-- A document has the scope that the table gives it, and no other. Where the table gives none, one
of the rules ignores the document: they never all pass. -/
theorem resolve_eq_some_iff_assigned (home : FilePath) (d : Document) (folder : Option Folder) :
    let verdict := Rule.decide Rule.table { document := d, folder, home }
    (∀ scope, resolve home d folder = some scope ↔ Assigned home d folder scope) ∧
      (resolve home d folder = none ↔ verdict = .ignore) ∧ verdict ≠ .pass := by
  intro verdict
  have named (scope : Scope) : verdict = .belongs scope ↔ Assigned home d folder scope := by
    refine ⟨fun decided => ?_, Assigned.decide_eq⟩
    rcases assigned_or_ignored home d folder with ⟨scope', assigned⟩ | ignored
    · cases assigned.decide_eq.symm.trans decided
      exact assigned
    · cases ignored.symm.trans decided
  have found (scope : Scope) : resolve home d folder = some scope ↔ verdict = .belongs scope :=
    ⟨decide_of_resolve, fun decided => congrArg Verdict.scope? decided⟩
  rcases assigned_or_ignored home d folder with ⟨scope, assigned⟩ | ignored
  · have decided : verdict = .belongs scope := assigned.decide_eq
    refine ⟨fun scope => (found scope).trans (named scope), ?_, ?_⟩
    · rw [(found scope).mpr decided, decided]
      simp
    · rw [decided]
      exact Verdict.noConfusion
  · refine ⟨fun scope => (found scope).trans (named scope), ?_, ?_⟩
    · exact ⟨fun _ => ignored, fun ignored => congrArg Verdict.scope? ignored⟩
    · rw [show verdict = .ignore from ignored]
      exact Verdict.noConfusion

end

end RLanguageHost
