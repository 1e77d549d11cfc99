import RLanguageHost.Proofs.Lifecycle.Claiming
import RLanguageHost.Proofs.Lifecycle.Notebooks

/-!
# Where documents are routed

A document is answered for by the session of its own scope or, if that does not live, by a stored
session that lives and claims the document. The session of a notebook or of a single file should
answer for that notebook or file alone.

Whatever has happened before, every session goes back to a document that was opened
(`Sound.knows_run`), and so to a path: the selector of a notebook or of a file holds the path's text
as a pattern. `Misleads` lists how a session can then answer for a document with another key. The
text fits another path, because it is a pattern, because it lost what is no text, or because it is
compared as a path; or the file is one, but its URI is spelled in another way; or the folder around
the document has the URI of the session's file.
-/

namespace RLanguageHost

/-! ## Paths that fit the text of a path -/

/-- How the text of a path, read as a pattern, fits a path. -/
inductive FilePath.Fits (p q : FilePath) : Prop
  /-- The text is a pattern with more in it than characters. -/
  | pattern {tokens : List Glob.Token} (parsed : Glob.parse? p.text = some tokens)
      (special : ¬ Glob.Literal p.text.toList) (here : Glob.isMatch tokens q.bytes)
  /-- The text is no pattern, and names the path. -/
  | named (unparsed : Glob.parse? p.text = none) (same : FilePath.Same (.ofString p.text) q)
  /-- The text has characters only, and they are the path. -/
  | spelled (literal : Glob.Literal p.text.toList) (same : q = .ofString p.text)

section

variable {p q : FilePath}

theorem patternMatches_text_iff : patternMatches p.text q = true ↔ p.Fits q := by
  unfold patternMatches
  split
  · next tokens parsed =>
    by_cases literal : Glob.Literal p.text.toList
    · rw [Glob.isMatch_iff_of_literal literal parsed]
      constructor
      · intro same
        exact .spelled literal (congrArg FilePath.mk same)
      · intro fits
        cases fits with
        | pattern _ special => exact absurd literal special
        | named unparsed => cases parsed.symm.trans unparsed
        | spelled _ same => exact congrArg FilePath.bytes same
    · constructor
      · intro here
        exact .pattern parsed literal here
      · intro fits
        cases fits with
        | pattern parsed' _ here =>
          cases parsed.symm.trans parsed'
          exact here
        | named unparsed => cases parsed.symm.trans unparsed
        | spelled literal' => exact absurd literal' literal
  · next unparsed =>
    rw [decide_eq_true_iff]
    constructor
    · intro same
      exact .named unparsed same
    · intro fits
      cases fits with
      | pattern parsed => cases unparsed.symm.trans parsed
      | named _ same => exact same
      | spelled literal =>
        obtain ⟨tokens, parsed⟩ := Glob.exists_parse?_of_literal literal
        cases unparsed.symm.trans parsed

/-- A text without special characters fits the path that has this text. -/
theorem FilePath.Fits.eq_of_literal (fits : p.Fits q) (literal : Glob.Literal p.text.toList) :
    q = .ofString p.text := by
  cases fits with
  | pattern _ special => exact absurd literal special
  | named unparsed =>
    obtain ⟨tokens, parsed⟩ := Glob.exists_parse?_of_literal literal
    cases unparsed.symm.trans parsed
  | spelled _ same => exact same

end

/-! ## Scopes of one notebook or file -/

/-- How the scope of a document is that of a notebook or of a single file. -/
inductive Scope.Single (scope : Scope) (d : Document) : Prop
  | notebook {p : FilePath} (kind : scope.kind = .notebook) (cell : d.isCell)
      (here : d.filePath? = some p) (key : scope.key = .notebook p)
      (selector : scope.selector = [Rule.filter d.uri.scheme (some rLanguage) (some p.text)])
  | file {p : FilePath} (kind : scope.kind = .strayFile) (file : d.isFile)
      (here : d.filePath? = some p) (key : scope.key = .ofUri d.uri)
      (selector : scope.selector = [Rule.filter d.uri.scheme none (some p.text)])

theorem single_of_resolve {home : FilePath} {d : Document} {folder : Option Folder} {scope : Scope}
    (resolved : resolve home d folder = some scope)
    (single : scope.kind = .strayFile ∨ scope.kind = .notebook) : scope.Single d := by
  obtain ⟨-, named | named | named | ⟨-, named⟩⟩ :=
    Rule.named_of_decide (decide_of_resolve resolved)
  · obtain ⟨cell, p, here, rfl⟩ := Rule.eq_of_notebookCell named
    exact .notebook rfl cell here rfl rfl
  · obtain ⟨f, directory, -, -, rfl⟩ := Rule.eq_of_workspaceFolder named
    rcases single with single | single <;> cases single
  · obtain ⟨-, rfl⟩ := Rule.eq_of_untitledBuffer named
    rcases single with single | single <;> cases single
  · obtain ⟨file, p, here, rfl⟩ := Rule.eq_of_strayFile named
    have scheme : d.uri.scheme = Uri.fileScheme := of_decide_eq_true file
    refine .file rfl file here rfl ?_
    rw [scheme]

/-- How a session for a notebook or file, which was started for the document `e`, can answer for a
document with another key. -/
inductive Workspace.Misleads (w : Workspace) (scope : Scope) (e d : Document) : Prop
  /-- The session is stored under the key of the folder around the document. -/
  | folder {f : Folder} (inside : w.folderFor? d.uri = some f) (shared : scope.key = .ofFolder f)
      (apart : f.uri.text ≠ d.uri.text)
  /-- The cell of a notebook with another path fits. -/
  | cell {p q : FilePath} (kind : scope.kind = .notebook) (cell : d.isCell)
      (there : e.filePath? = some p) (here : d.filePath? = some q) (fits : p.Fits q)
      (apart : p.text ≠ q.text)
  /-- A file with another URI fits. -/
  | file {p q : FilePath} (kind : scope.kind = .strayFile) (file : d.isFile)
      (there : e.filePath? = some p) (here : d.filePath? = some q) (fits : p.Fits q)
      (apart : e.uri.text ≠ d.uri.text)

section

variable {w : Workspace} {scope : Scope} {d e : Document}

theorem Workspace.Misleads.key_ne (misleads : w.Misleads scope e d) (single : scope.Single e) :
    scope.key ≠ .ofClosed d := by
  cases misleads with
  | folder inside shared apart =>
    have file : d.isFile := decide_eq_true (mem_folders_of_folderFor? inside).1
    rw [shared, ScopeKey.ofClosed_of_isFile file]
    exact fun same => apart (congrArg ScopeKey.text same)
  | cell kind cell there here _ apart =>
    cases single with
    | notebook _ _ there' key =>
      cases there.symm.trans there'
      rw [key, ScopeKey.ofClosed_of_filePath? cell here]
      exact fun same => apart (ScopeKey.notebook_eq_notebook_iff.mp same)
    | file kind' => cases kind.symm.trans kind'
  | file kind file _ _ _ apart =>
    cases single with
    | notebook kind' => cases kind.symm.trans kind'
    | file _ _ _ key =>
      rw [key, ScopeKey.ofClosed_of_isFile file]
      exact fun same => apart (congrArg ScopeKey.text same)

/-- The document that a session for one notebook or file claims has its key, unless it misleads. -/
theorem Scope.Single.misleads_of_matches (single : scope.Single e)
    (claimed : scope.selector.matches d) (apart : scope.key ≠ .ofClosed d) :
    w.Misleads scope e d := by
  cases single with
  | notebook kind cell there key selector =>
    rw [selector] at claimed
    obtain ⟨filter, listed, fits⟩ := List.any_eq_true.mp claimed
    rw [List.mem_singleton.mp listed, Rule.filter_matches_iff] at fits
    obtain ⟨scheme, -, pattern⟩ := fits
    obtain ⟨q, here, fits⟩ := pattern _ rfl
    have another : d.isCell := by
      rw [Document.isCell, ← scheme]
      exact cell
    refine .cell kind another there here (patternMatches_text_iff.mp fits) ?_
    intro alike
    rw [key, ScopeKey.ofClosed_of_filePath? another here] at apart
    exact apart (ScopeKey.notebook_eq_notebook_iff.mpr alike)
  | file kind file there key selector =>
    rw [selector] at claimed
    obtain ⟨filter, listed, fits⟩ := List.any_eq_true.mp claimed
    rw [List.mem_singleton.mp listed, Rule.filter_matches_iff] at fits
    obtain ⟨scheme, -, pattern⟩ := fits
    obtain ⟨q, here, fits⟩ := pattern _ rfl
    have another : d.isFile := by
      rw [Document.isFile, ← scheme]
      exact file
    refine .file kind another there here (patternMatches_text_iff.mp fits) ?_
    intro alike
    rw [key, ScopeKey.ofClosed_of_isFile another] at apart
    exact apart (congrArg ScopeKey.mk alike)

/-- The document whose own scope has the key of a session has that key, unless it lies in a folder
with the key. -/
theorem Workspace.misleads_of_resolve {home : FilePath} {own : Scope}
    (resolved : w.resolve home d = some own) (shared : own.key = scope.key)
    (apart : scope.key ≠ .ofClosed d) : w.Misleads scope e d := by
  have belongs := belongs_of_resolve resolved
  rw [shared] at belongs
  generalize same : scope.key = key at belongs
  generalize own.kind = kind at belongs
  cases belongs with
  | cell cell here =>
    exact absurd (same.trans (ScopeKey.ofClosed_of_filePath? cell here).symm) apart
  | inFolder inside =>
    refine .folder inside same fun alike => ?_
    have file : d.isFile := decide_eq_true (mem_folders_of_folderFor? inside).1
    rw [same, ScopeKey.ofClosed_of_isFile file] at apart
    exact apart (congrArg ScopeKey.mk alike)
  | buffer untitled =>
    exact absurd (same.trans (ScopeKey.ofClosed_of_isUntitled untitled).symm) apart
  | stray file => exact absurd (same.trans (ScopeKey.ofClosed_of_isFile file).symm) apart

end

namespace Lifecycle.State

/-! ## Where sessions come from -/

/-- A session of the scope was started, or a handler waits for it. -/
def Knows (s : State) (scope : Scope) : Prop :=
  scope ∈ s.scopes ∨ ∃ handler, (handler, .start scope) ∈ s.handlers

/-- The scope is what a document had when it was opened among the events. -/
def StartedFor (s : State) (events : List Event) (d : Document) (scope : Scope) : Prop :=
  ∃ before after, events = before ++ .job (.openDocument d) :: after ∧
    (s.run before).workspace.resolve (s.run before).home d = some scope

variable {s : State} {scope : Scope}

/-- What is known after an event was known before, or a document was opened. -/
theorem Sound.knows_step (h : s.Sound) {e : Event} (knows : (s.step e).Knows scope) :
    s.Knows scope ∨
      ∃ d, e = .job (.openDocument d) ∧ s.workspace.resolve s.home d = some scope := by
  rcases knows with started | ⟨handler, waits⟩
  · rw [scopes_step] at started
    rcases List.mem_append.mp started with before | new
    · exact .inl (.inl before)
    · left
      unfold startedBy at new
      split at new
      · next handler =>
        split at new
        · next known waits =>
          cases List.mem_singleton.mp new
          exact .inr ⟨handler, h.waiting?_eq_some_iff.mp waits⟩
        · cases new
      · cases new
  · rcases mem_handlers_step waits with before | comes
    · exact .inl (.inr ⟨handler, before⟩)
    · exact .inr comes.exists_document

theorem Sound.knows_run (h : s.Sound) {events : List Event} (knows : (s.run events).Knows scope) :
    s.Knows scope ∨ ∃ d, s.StartedFor events d scope := by
  induction events generalizing s with
  | nil => exact .inl knows
  | cons e rest ih =>
    rcases ih (h.step e).sound knows with before | ⟨d, first, after, rfl, resolved⟩
    · rcases h.knows_step before with before | ⟨d, rfl, resolved⟩
      · exact .inl before
      · exact .inr ⟨d, [], rest, rfl, resolved⟩
    · exact .inr ⟨d, e :: first, after, rfl, resolved⟩

/-! ## Who answers for a document -/

/-- A session may answer for a document: that of the document's own scope or, if that does not live,
a stored session that lives and claims the document, whichever comes first. -/
inductive Answers (s : State) (d : Document) (n : Nat) : Prop
  | own {own : Scope} (resolved : s.workspace.resolve s.home d = some own)
      (stored : s.registry.get? own.key = some n) (live : s.isLive n)
  | other {key : ScopeKey} {m : Member}
      (unserved : ∀ own, s.workspace.resolve s.home d = some own → ¬ s.isServed own.key)
      (stored : s.registry.get? key = some n) (placed : s.fleet[n]? = some m) (live : m.live)
      (claimed : m.scope.selector.matches d)

variable {d : Document} {n : Nat}

theorem Sound.answers_of_sessionFor? (h : s.Sound) (found : s.sessionFor? d = some n) :
    s.Answers d n := by
  unfold sessionFor? at found
  dsimp only at found
  split at found
  · next served =>
    obtain ⟨own, resolved, stored⟩ := Option.bind_eq_some_iff.mp found
    rw [found] at served
    exact .own resolved stored served
  · next unserved =>
    obtain ⟨⟨key, n⟩, first, rfl⟩ := Option.map_eq_some_iff.mp found
    have stored := List.mem_of_find?_eq_some first
    have serves := List.find?_some first
    obtain ⟨m, placed, both⟩ := (Option.any_eq_true _ _).mp serves
    rw [Bool.and_eq_true] at both
    refine .other ?_ (h.sorted.mem_sessions_iff.mp stored) placed both.1 both.2
    intro own resolved served
    rw [resolved] at unserved
    exact unserved served

theorem Answers.isLive (answers : s.Answers d n) : s.isLive n := by
  cases answers with
  | own _ _ live => exact live
  | other _ _ placed live =>
    rw [State.isLive, placed]
    exact live

theorem Answers.exists_stored (answers : s.Answers d n) :
    ∃ key, s.registry.get? key = some n := by
  cases answers with
  | own _ stored => exact ⟨_, stored⟩
  | other _ stored => exact ⟨_, stored⟩

/-- The session of a notebook or file that answers for a document with another key misleads. -/
theorem Answers.misleads (h : s.Sound) (answers : s.Answers d n)
    (placed : s.scopes[n]? = some scope) {e : Document} (single : scope.Single e)
    (apart : scope.key ≠ .ofClosed d) : s.workspace.Misleads scope e d := by
  cases answers with
  | @own own resolved stored =>
    obtain ⟨same, placed', key⟩ := h.exists_scope stored
    cases placed.symm.trans placed'
    exact Workspace.misleads_of_resolve resolved key.symm apart
  | @other key m _ _ placed' _ claimed =>
    have same : some m.scope = some scope := by
      rw [← placed, scopes, List.getElem?_map, placed']
      rfl
    cases same
    exact single.misleads_of_matches claimed apart

/-- In whatever way the host has come to its state: a session that answers for a document lives and
was started when some document was opened. If it is the session of a notebook or of a single file,
it has the key that the document has for itself, unless it misleads. -/
theorem answers_for_own_iff (home : FilePath) (w : Workspace) (events : List Event)
    (d : Document) :
    let s := run { home, workspace := w } events
    (∀ n, s.sessionFor? d = some n → s.Answers d n) ∧
      ∀ n, s.Answers d n → s.isLive n ∧ ∃ scope, s.scopes[n]? = some scope ∧
        (∃ e, StartedFor { home, workspace := w } events e scope) ∧
        ∀ e, StartedFor { home, workspace := w } events e scope →
          scope.kind = .strayFile ∨ scope.kind = .notebook →
          (scope.key = ScopeKey.ofClosed d ↔ ¬ s.workspace.Misleads scope e d) := by
  intro s
  have initial : Sound { home, workspace := w } := sound_initial home w
  have sound : s.Sound := initial.run events
  refine ⟨fun n found => sound.answers_of_sessionFor? found, fun n answers => ?_⟩
  obtain ⟨key, stored⟩ := answers.exists_stored
  obtain ⟨scope, placed, -⟩ := sound.exists_scope stored
  refine ⟨answers.isLive, scope, placed, ?_, ?_⟩
  · have known : s.Knows scope := .inl (List.mem_of_getElem? placed)
    rcases initial.knows_run known with (started | ⟨handler, waits⟩) | started
    · cases started
    · cases waits
    · exact started
  · rintro e ⟨before, after, -, resolved⟩ kind
    have single := single_of_resolve resolved kind
    constructor
    · intro own misleads
      exact misleads.key_ne single own
    · intro clear
      exact Classical.not_not.mp fun apart => clear (answers.misleads sound placed single apart)

/-! ## Documents that are routed astray -/

/-- A document is opened and its session started; after that the workspace has the given folders. -/
def afterOpening (d : Document) (folders : List Folder) : List Event :=
  [.job (.openDocument d), .startEnded 0 (.ok ()), .workspaceChanged { folders }]

/-- The kind and key of the session that is found for a document after another one was opened. -/
def foundAfter (e : Document) (folders : List Folder) (d : Document) :
    Option (ScopeKind × ScopeKey) := do
  let s := run { home := ⟨[]⟩ } (afterOpening e folders)
  let session ← s.sessionFor? d
  let scope ← s.scopes[session]?
  return (scope.kind, scope.key)

/-- A star in the name of a file makes its session answer for another file, which it misleads. -/
theorem answers_for_own_iff_star :
    let e : Document := ⟨fileAt "/a*.r", rLanguage⟩
    let d : Document := ⟨fileAt "/abc.r", rLanguage⟩
    let s := run { home := ⟨[]⟩ } (afterOpening e [])
    s.sessionFor? d = some 0 ∧
      ∃ scope, s.scopes[0]? = some scope ∧ s.workspace.Misleads scope e d := by
  intro e d s
  have found : s.sessionFor? d = some 0 := by
    decide +kernel
  have asked : Workspace.resolve {} ⟨[]⟩ e = s.scopes[0]? := by
    decide +kernel
  have other : (s.scopes[0]?).map (fun scope => (scope.kind, decide (scope.key = .ofClosed d))) =
      some (.strayFile, false) := by
    decide +kernel
  obtain ⟨answers, routed⟩ := answers_for_own_iff ⟨[]⟩ {} (afterOpening e []) d
  obtain ⟨-, scope, placed, -, own⟩ := routed 0 (answers 0 found)
  have started : StartedFor { home := ⟨[]⟩ } (afterOpening e []) e scope :=
    ⟨[], _, rfl, asked.trans placed⟩
  rw [show s.scopes[0]? = some scope from placed, Option.map_some, Option.some_inj,
    Prod.mk.injEq, decide_eq_false_iff_not] at other
  obtain ⟨kind, apart⟩ := other
  refine ⟨found, scope, placed, Classical.not_not.mp fun clear => ?_⟩
  exact apart ((own e started (.inl kind)).mpr clear)

/-- The session of a file or notebook is found for one with another key: for what it fits as a
pattern, for what it reads like when it is no text, for its own file under another URI, for a path
with the components of a path that is no pattern, and for the files of a folder with its URI. -/
theorem sessions_found_for_others :
    let file (path : String) : Document := ⟨fileAt path, rLanguage⟩
    let cell (path : String) : Document :=
      ⟨{ fileAt path with scheme := "notebook-cell", authority := none }, rLanguage⟩
    (foundAfter (file "/a*.r") [] (file "/abc.r") = some (.strayFile, ⟨"file:///a*.r"⟩) ∧
      ScopeKey.ofClosed (file "/abc.r") = ⟨"file:///abc.r"⟩) ∧
    (foundAfter (cell "/a*.ipynb") [] (cell "/abc.ipynb") =
        some (.notebook, ⟨"vscode-notebook:/a*.ipynb"⟩) ∧
      ScopeKey.ofClosed (cell "/abc.ipynb") = ⟨"vscode-notebook:/abc.ipynb"⟩) ∧
    (foundAfter (file "/%FF.r") [] (file "/%EF%BF%BD.r") =
        some (.strayFile, ⟨"file:///%FF.r"⟩) ∧
      ScopeKey.ofClosed (file "/%EF%BF%BD.r") = ⟨"file:///%EF%BF%BD.r"⟩) ∧
    (foundAfter (file "/a.r") [] (file "/%61.r") = some (.strayFile, ⟨"file:///a.r"⟩) ∧
      ScopeKey.ofClosed (file "/%61.r") = ⟨"file:///%61.r"⟩) ∧
    (foundAfter (cell "/%7D/a.ipynb") [] (cell "/%7D//a.ipynb") =
        some (.notebook, ⟨"vscode-notebook:/\x7d/a.ipynb"⟩) ∧
      ScopeKey.ofClosed (cell "/%7D//a.ipynb") = ⟨"vscode-notebook:/\x7d//a.ipynb"⟩) ∧
    (foundAfter (file "/w") [{ uri := fileAt "/w", name := "" }] (file "/w/a.r") =
        some (.strayFile, ⟨"file:///w"⟩) ∧
      ScopeKey.ofClosed (file "/w/a.r") = ⟨"file:///w/a.r"⟩) := by
  refine ⟨⟨?_, ?_⟩, ⟨?_, ?_⟩, ⟨?_, ?_⟩, ⟨?_, ?_⟩, ⟨?_, ?_⟩, ?_, ?_⟩ <;> decide +kernel

end Lifecycle.State

end RLanguageHost
