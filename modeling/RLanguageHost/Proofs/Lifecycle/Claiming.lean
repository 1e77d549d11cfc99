import RLanguageHost.Lifecycle.State
import RLanguageHost.Proofs.Glob.Spelling
import RLanguageHost.Proofs.Scope.Belonging
import RLanguageHost.Proofs.Uri.Text
import RLanguageHost.Proofs.Workspace

/-!
# Documents that their scopes claim

A session serves the document for which it was started through the key of the document's scope. Once
the scope of the document has another key, as when a folder is added around it, the session is still
found if its selector claims the document.

A selector holds paths as patterns. `Describes` says when they mean the paths that they are made of:
the bytes of a path are text, no character in it has another meaning in a pattern, and a document in
a folder is spelled as the folder is, with a slash after it. The selector then claims every document
for which its scope was made, save the cells of a notebook in another language than R.
-/

namespace RLanguageHost

/-! ## Paths as patterns -/

/-- A path whose text means the path as a pattern: no bytes are lost, and the text either is no
pattern or has none of the characters that stand for something else. -/
structure FilePath.IsOwnPattern (p : FilePath) : Prop where
  isText : FilePath.ofString p.text = p
  plain : Glob.parse? p.text = none ∨ Glob.Plain p.text.toList

section

variable {p directory : FilePath}

theorem patternMatches_text (own : p.IsOwnPattern)
    (absolute : p.bytes.head? = some FilePath.slash) : patternMatches p.text p = true := by
  unfold patternMatches
  split
  · next tokens parsed =>
    have plain : Glob.Plain p.text.toList := by
      rcases own.plain with none | plain
      · rw [parsed] at none
        cases none
      · exact plain
    have spells : Glob.Spells none p.text.toList p.bytes := by
      have spelled := Glob.spells_encode none p.text.toList
      rwa [show Utf8.encode p.text.toList = p.bytes from congrArg FilePath.bytes own.isText]
        at spelled
    exact Glob.isMatch_of_spells plain spells absolute parsed
  · rw [own.isText]
    exact decide_eq_true rfl

theorem patternMatches_patternBelow {rest : Bytes} (plain : Glob.Plain directory.text.toList)
    (noBrace : '\x7d' ∉ directory.text.toList)
    (below : p.bytes = bytesOf directory.text ++ FilePath.slash :: rest)
    (absolute : p.bytes.head? = some FilePath.slash) :
    patternMatches (Rule.patternBelow directory) p = true := by
  have text : (Rule.patternBelow directory).toList =
      directory.text.toList ++ ['/', '*', '*', '/', '*'] := by
    rw [Rule.patternBelow, String.toList_append]
    rfl
  have plain' : Glob.Plain (Rule.patternBelow directory).toList := by
    rw [text]
    intro c member
    rcases List.mem_append.mp member with inDirectory | after
    · exact plain c inDirectory
    · simp only [List.mem_cons, List.not_mem_nil, or_false] at after
      rcases after with rfl | rfl | rfl | rfl | rfl <;> decide
  have noBrace' : '\x7d' ∉ (Rule.patternBelow directory).toList := by
    rw [text]
    simp [noBrace]
  have spells : Glob.Spells none (Rule.patternBelow directory).toList p.bytes := by
    rw [text, below]
    exact Glob.spells_below none directory.text.toList rest
  obtain ⟨tokens, parsed⟩ := Glob.exists_parse? plain' noBrace'
  rw [patternMatches, parsed]
  exact Glob.isMatch_of_spells plain' spells absolute parsed

end

/-! ## Selectors of the rules -/

namespace Rule

theorem filter_matches_iff {scheme : String} {language pattern : Option String} {d : Document} :
    (filter scheme language pattern).matches d = true ↔
      scheme = d.uri.scheme ∧ (∀ l ∈ language, l = d.language) ∧
        ∀ p ∈ pattern, ∃ path, d.filePath? = some path ∧ patternMatches p path := by
  unfold filter Filter.matches
  cases language <;> cases pattern <;> simp [and_assoc, Option.any_eq_true]

variable {c : Circumstances} {scope : Scope}

theorem language_of_targetLanguage (h : targetLanguage c = .pass)
    (served : c.folder = none → ¬ c.document.isFile) :
    c.document.language = rLanguage ∨ c.document.language = rmdLanguage := by
  unfold targetLanguage at h
  split at h
  · next target => simpa [Document.hasTargetLanguage, isTargetLanguage] using target
  · split at h
    · next outside =>
      rw [Bool.and_eq_true, Option.isNone_iff_eq_none] at outside
      exact absurd outside.1 (served outside.2)
    · cases h

end Rule

/-! ## What a scope claims -/

/-- The patterns in the selector of a scope mean the path of a document. -/
inductive Scope.Describes (scope : Scope) (d : Document) : Prop
  | buffer (kind : scope.kind = .untitled)
  | file {path : FilePath} (kind : scope.kind = .notebook ∨ scope.kind = .strayFile)
      (here : d.filePath? = some path) (own : path.IsOwnPattern)
  | below {f : Folder} {path directory : FilePath} {rest : Bytes}
      (kind : scope.kind = .workspaceFolder) (folder : scope.folder = some f)
      (place : f.path? = some directory) (plain : Glob.Plain directory.text.toList)
      (noBrace : '\x7d' ∉ directory.text.toList) (here : d.filePath? = some path)
      (spelled : path.bytes = bytesOf directory.text ++ FilePath.slash :: rest)

section

variable {c : Circumstances} {d : Document} {scope : Scope}

theorem matches_of_mem {selector : Selector} {language pattern : Option String}
    (listed : Rule.filter d.uri.scheme language pattern ∈ selector)
    (spoken : ∀ l ∈ language, l = d.language)
    (here : ∀ p ∈ pattern, ∃ path, d.filePath? = some path ∧ patternMatches p path) :
    selector.matches d = true :=
  List.any_eq_true.mpr ⟨_, listed, Rule.filter_matches_iff.mpr ⟨rfl, spoken, here⟩⟩

/-- Two filters that differ in the language take every document that a server is made for. -/
theorem matches_of_target {pattern : Option String}
    (target : d.language = rLanguage ∨ d.language = rmdLanguage)
    (here : ∀ p ∈ pattern, ∃ path, d.filePath? = some path ∧ patternMatches p path) :
    Selector.matches [Rule.filter d.uri.scheme (some rLanguage) pattern,
      Rule.filter d.uri.scheme (some rmdLanguage) pattern] d = true := by
  rcases target with r | rmd
  · refine matches_of_mem List.mem_cons_self ?_ here
    rintro l ⟨⟩
    exact r.symm
  · refine matches_of_mem (List.mem_cons_of_mem _ List.mem_cons_self) ?_ here
    rintro l ⟨⟩
    exact rmd.symm

theorem claims_notebookCell (named : Rule.notebookCell c = .belongs scope)
    (described : scope.Describes c.document) :
    scope.selector.matches c.document = true ↔
      (scope.kind = .notebook → c.document.language = rLanguage) := by
  obtain ⟨-, path, here, rfl⟩ := Rule.eq_of_notebookCell named
  cases described with
  | buffer other | below other => cases other
  | file _ here' own =>
    cases here.symm.trans here'
    have pattern := patternMatches_text own (Uri.isAbsolute_of_filePath? here)
    constructor
    · intro claimed _
      obtain ⟨f, listed, fits⟩ := List.any_eq_true.mp claimed
      rw [List.mem_singleton.mp listed, Rule.filter_matches_iff] at fits
      exact (fits.2.1 rLanguage rfl).symm
    · intro spoken
      apply matches_of_mem (List.mem_singleton_self _)
      · rintro l ⟨⟩
        exact (spoken rfl).symm
      · rintro p ⟨⟩
        exact ⟨path, here, pattern⟩

theorem claims_workspaceFolder (language : Rule.targetLanguage c = .pass)
    (file : c.folder ≠ none → c.document.uri.scheme = Uri.fileScheme)
    (named : Rule.workspaceFolder c = .belongs scope) (described : scope.Describes c.document) :
    scope.kind ≠ .notebook ∧ scope.selector.matches c.document = true := by
  obtain ⟨f, directory, inside, place, rfl⟩ := Rule.eq_of_workspaceFolder named
  refine ⟨ScopeKind.noConfusion, ?_⟩
  cases described with
  | buffer other => cases other
  | file other => rcases other with other | other <;> cases other
  | @below g path directory' rest _ folder place' plain noBrace here spelled =>
    cases folder
    cases place.symm.trans place'
    have pattern := patternMatches_patternBelow plain noBrace spelled
      (Uri.isAbsolute_of_filePath? here)
    have target := Rule.language_of_targetLanguage language
      fun outside => by cases inside.symm.trans outside
    rw [← file (by simp [inside])]
    apply matches_of_target target
    rintro p ⟨⟩
    exact ⟨path, here, pattern⟩

theorem claims_untitledBuffer (language : Rule.targetLanguage c = .pass)
    (named : Rule.untitledBuffer c = .belongs scope) :
    scope.kind ≠ .notebook ∧ scope.selector.matches c.document = true := by
  obtain ⟨untitled, rfl⟩ := Rule.eq_of_untitledBuffer named
  refine ⟨ScopeKind.noConfusion, ?_⟩
  have scheme : c.document.uri.scheme = untitledScheme := of_decide_eq_true untitled
  have target := Rule.language_of_targetLanguage language
    fun _ file => Document.not_isUntitled_of_isFile file untitled
  rw [← scheme]
  apply matches_of_target target
  rintro p ⟨⟩

theorem claims_strayFile (named : Rule.strayFile c = .belongs scope)
    (described : scope.Describes c.document) :
    scope.kind ≠ .notebook ∧ scope.selector.matches c.document = true := by
  obtain ⟨file, path, here, rfl⟩ := Rule.eq_of_strayFile named
  refine ⟨ScopeKind.noConfusion, ?_⟩
  cases described with
  | buffer other | below other => cases other
  | file _ here' own =>
    cases here.symm.trans here'
    have scheme : c.document.uri.scheme = Uri.fileScheme := of_decide_eq_true file
    have pattern := patternMatches_text own (Uri.isAbsolute_of_filePath? here)
    rw [← scheme]
    apply matches_of_mem (List.mem_singleton_self _)
    · rintro l ⟨⟩
    · rintro p ⟨⟩
      exact ⟨path, here, pattern⟩

end

/-! ## What a session serves -/

namespace Lifecycle

theorem State.exists_sessionFor? {s : State} {d : Document} {entry : ScopeKey × Nat} {m : Member}
    (stored : entry ∈ s.registry.sessions) (placed : s.fleet[entry.2]? = some m) (live : m.live)
    (claimed : m.scope.selector.matches d) :
    ∃ session, s.sessionFor? d = some session ∧ s.isLive session := by
  unfold sessionFor?
  dsimp only
  split
  · next own =>
    obtain ⟨session, here, live⟩ := (Option.any_eq_true _ _).mp own
    exact ⟨session, here, live⟩
  · have any : (s.registry.sessions.find? fun entry =>
        (s.fleet[entry.2]?).any fun m => m.live && m.scope.selector.matches d).isSome :=
      List.find?_isSome.mpr ⟨entry, stored, by simp [placed, live, claimed]⟩
    obtain ⟨found, here⟩ := Option.isSome_iff_exists.mp any
    have serves := List.find?_some here
    obtain ⟨n, placed, both⟩ := (Option.any_eq_true _ _).mp serves
    rw [Bool.and_eq_true] at both
    refine ⟨found.2, by rw [here]; rfl, ?_⟩
    rw [isLive, placed]
    exact both.1

end Lifecycle

section

variable {w : Workspace} {home : FilePath} {d : Document} {scope : Scope}

/-- A scope claims the documents for which it was made, save cells in another language than R, and a
live session of the scope then keeps the document from being without a session. -/
theorem Workspace.claims_iff_of_resolve (resolved : w.resolve home d = some scope)
    (described : scope.Describes d) :
    (scope.selector.matches d = true ↔ (scope.kind = .notebook → d.language = rLanguage)) ∧
      ∀ (s : Lifecycle.State) (entry : ScopeKey × Nat) (m : Lifecycle.Member),
        entry ∈ s.registry.sessions → s.fleet[entry.2]? = some m → m.live →
        m.scope = scope → (scope.kind = .notebook → d.language = rLanguage) →
        ∃ session, s.sessionFor? d = some session ∧ s.isLive session := by
  have claims : scope.selector.matches d = true ↔
      (scope.kind = .notebook → d.language = rLanguage) := by
    obtain ⟨language, named | named | named | ⟨-, named⟩⟩ :=
      Rule.named_of_decide (decide_of_resolve resolved)
    · exact claims_notebookCell named described
    · have file : w.folderFor? d.uri ≠ none → d.uri.scheme = Uri.fileScheme := by
        intro inside
        obtain ⟨f, inside⟩ := Option.ne_none_iff_exists'.mp inside
        exact (mem_folders_of_folderFor? inside).1
      obtain ⟨kind, claimed⟩ := claims_workspaceFolder language file named described
      exact iff_of_true claimed fun notebook => absurd notebook kind
    · obtain ⟨kind, claimed⟩ := claims_untitledBuffer language named
      exact iff_of_true claimed fun notebook => absurd notebook kind
    · obtain ⟨kind, claimed⟩ := claims_strayFile named described
      exact iff_of_true claimed fun notebook => absurd notebook kind
  refine ⟨claims, ?_⟩
  rintro s entry m stored placed live rfl spoken
  exact Lifecycle.State.exists_sessionFor? stored placed live (claims.mpr spoken)

end

def workspaceAt (path : String) : Workspace :=
  { folders := [{ uri := fileAt path, name := "" }] }

/-- The scope of the only folder of a workspace. -/
def scopeAt (path : String) : Scope :=
  { key := .ofUri (fileAt path)
    kind := .workspaceFolder
    selector :=
      [Rule.filter Uri.fileScheme (some rLanguage) (some (path ++ "/**/*")),
        Rule.filter Uri.fileScheme (some rmdLanguage) (some (path ++ "/**/*"))]
    workingDirectory := .ofString path
    folder := some { uri := fileAt path, name := "" } }

/-- The session of a folder that is gone from the workspace. -/
def Lifecycle.State.servingAt (path : String) : Lifecycle.State :=
  { home := ⟨[]⟩
    registry := { sessions := [((scopeAt path).key, 0)] }
    fleet := [{ scope := scopeAt path }] }

/-- A file with stars and a question mark in its path is claimed by the scope of its folder, and so
served after the folder is gone. -/
theorem Workspace.claims_iff_of_resolve_stars :
    (workspaceAt "/w").resolve ⟨[]⟩ ⟨fileAt "/w/**/a*%3F", rmdLanguage⟩ = some (scopeAt "/w") ∧
      (scopeAt "/w").selector.matches ⟨fileAt "/w/**/a*%3F", rmdLanguage⟩ = true ∧
      ∃ session, (Lifecycle.State.servingAt "/w").sessionFor? ⟨fileAt "/w/**/a*%3F", rmdLanguage⟩ =
        some session := by
  have resolved : (workspaceAt "/w").resolve ⟨[]⟩ ⟨fileAt "/w/**/a*%3F", rmdLanguage⟩ =
      some (scopeAt "/w") := by
    decide +kernel
  have place : Folder.path? { uri := fileAt "/w", name := "" } = some (.ofString "/w") := by
    decide +kernel
  have here : Document.filePath? ⟨fileAt "/w/**/a*%3F", rmdLanguage⟩ =
      some (.ofString "/w/**/a*?") := by
    decide +kernel
  have text : (FilePath.ofString "/w").text = "/w" := by
    decide +kernel
  have plain : Glob.Plain (FilePath.ofString "/w").text.toList ∧
      '\x7d' ∉ (FilePath.ofString "/w").text.toList := by
    rw [text]
    simp [Glob.Plain]
  have spelled : (FilePath.ofString "/w/**/a*?").bytes =
      bytesOf (FilePath.ofString "/w").text ++ FilePath.slash :: bytesOf "**/a*?" := by
    decide +kernel
  have described : (scopeAt "/w").Describes ⟨fileAt "/w/**/a*%3F", rmdLanguage⟩ :=
    .below rfl rfl place plain.1 plain.2 here spelled
  obtain ⟨claims, serves⟩ := Workspace.claims_iff_of_resolve resolved described
  obtain ⟨session, found, -⟩ :=
    serves (Lifecycle.State.servingAt "/w") ((scopeAt "/w").key, 0) { scope := scopeAt "/w" }
      List.mem_cons_self rfl rfl rfl fun notebook => nomatch notebook
  exact ⟨resolved, claims.mpr (fun notebook => nomatch notebook), session, found⟩

/-- The scope of a document does not claim it. -/
def Workspace.LeavesOut (w : Workspace) (home : FilePath) (d : Document) : Prop :=
  ∃ scope, w.resolve home d = some scope ∧ ¬ scope.selector.matches d

instance (w : Workspace) (home : FilePath) (d : Document) : Decidable (w.LeavesOut home d) :=
  decidable_of_iff ((w.resolve home d).any fun scope => !scope.selector.matches d) <| by
    simp [Workspace.LeavesOut, Option.any_eq_true]

/-- What keeps a document from being claimed: a cell in R Markdown, a path that is no text, a path
with a class, with a backslash or with alternatives, a folder with a class or a closing brace, a
document that is its folder, the root as a folder, and a folder that the document spells in another
way. -/
theorem Workspace.documents_left_out :
    LeavesOut {} ⟨[]⟩
        ⟨{ fileAt "/a.ipynb" with scheme := "notebook-cell", authority := none }, rmdLanguage⟩ ∧
      LeavesOut {} ⟨[]⟩ ⟨fileAt "/%FF.r", rLanguage⟩ ∧
      LeavesOut {} ⟨[]⟩ ⟨fileAt "/a[b].r", rLanguage⟩ ∧
      LeavesOut {} ⟨[]⟩ ⟨fileAt "/a%5Cb.r", rLanguage⟩ ∧
      LeavesOut {} ⟨[]⟩ ⟨fileAt "/%7Ba%7D.r", rLanguage⟩ ∧
      LeavesOut (workspaceAt "/w[1]") ⟨[]⟩ ⟨fileAt "/w[1]/a.r", rLanguage⟩ ∧
      LeavesOut (workspaceAt "/w%7D") ⟨[]⟩ ⟨fileAt "/w%7D/a.r", rLanguage⟩ ∧
      LeavesOut (workspaceAt "/w") ⟨[]⟩ ⟨fileAt "/w", rLanguage⟩ ∧
      LeavesOut (workspaceAt "/") ⟨[]⟩ ⟨fileAt "/a.r", rLanguage⟩ ∧
      LeavesOut (workspaceAt "/v/w") ⟨[]⟩ ⟨fileAt "/v//w/a.r", rLanguage⟩ := by
  decide +kernel

end RLanguageHost
