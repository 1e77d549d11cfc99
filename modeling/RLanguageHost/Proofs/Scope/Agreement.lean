import RLanguageHost.Proofs.Scope.Belonging
import RLanguageHost.Proofs.Text.Decoding
import RLanguageHost.Proofs.Uri.Text
import RLanguageHost.Proofs.Workspace

/-!
# Scopes with one key

Documents whose scopes have one key share a server, so their scopes had better be the same: of one
kind, with one directory to run in, and in one workspace folder. They are, unless one of the
documents `Confuses` the key.

There are three ways to do that. Paths that are no text read alike although they are not, so cells
of two notebooks can have one key. The directory of a folder is made from the text of its URI
without slashes and backslashes at its end, so the file with the URI of the folder can lie outside
of it. And the URI of a folder can read like the key of a notebook.

A path is usual if it is text without backslashes. Documents with usual paths confuse nothing,
unless a folder has the scheme of a notebook's key (`same_scope_of_usual`).
-/

namespace RLanguageHost

/-! ## Where a scope is placed -/

/-- How a document belongs to a scope of a kind with a key that runs in a directory and has a
folder, when the document lies in the given workspace folder, if any. -/
inductive Placed (home : FilePath) (d : Document) (folder : Option Folder) :
    ScopeKind → ScopeKey → FilePath → Option Folder → Prop
  | cell {path : FilePath} (cell : d.isCell) (notebook : d.filePath? = some path) :
      Placed home d folder .notebook (.notebook path) path.directory folder
  | inFolder {f : Folder} {directory : FilePath} (inside : folder = some f)
      (place : f.path? = some directory) :
      Placed home d folder .workspaceFolder (.ofFolder f) directory (some f)
  | buffer (untitled : d.isUntitled) : Placed home d folder .untitled .untitled home none
  | stray {path : FilePath} (file : d.isFile) (outside : folder = none)
      (here : d.filePath? = some path) :
      Placed home d folder .strayFile (.ofUri d.uri) path.directory none

theorem placed_of_resolve {home : FilePath} {d : Document} {folder : Option Folder} {scope : Scope}
    (h : resolve home d folder = some scope) :
    Placed home d folder scope.kind scope.key scope.workingDirectory scope.folder := by
  obtain ⟨-, named | named | named | ⟨outside, named⟩⟩ :=
    Rule.named_of_decide (decide_of_resolve h)
  · obtain ⟨cell, path, here, rfl⟩ := Rule.eq_of_notebookCell named
    exact .cell cell here
  · obtain ⟨f, directory, inside, place, rfl⟩ := Rule.eq_of_workspaceFolder named
    exact .inFolder inside place
  · obtain ⟨untitled, rfl⟩ := Rule.eq_of_untitledBuffer named
    exact .buffer untitled
  · obtain ⟨file, path, here, rfl⟩ := Rule.eq_of_strayFile named
    exact .stray file outside here

/-! ## The directory of a folder -/

namespace FilePath

/-- A path that is text without a backslash. -/
structure IsUsual (p : FilePath) : Prop where
  isText : ofString p.text = p
  plain : '\\' ∉ p.text.toList

theorem splitOn_append_separator (separator : UInt8) (bs : Bytes) :
    splitOn separator (bs ++ [separator]) = splitOn separator bs ++ [[]] := by
  induction bs with
  | nil => simp [splitOn]
  | cons b bs ih =>
      rw [List.cons_append, splitOn, splitOn, ih]
      split
      · rfl
      · cases parts : splitOn separator bs with
        | nil => exact absurd parts (splitOn_ne_nil separator bs)
        | cons part parts => rfl

theorem components_cons_slash (bs : Bytes) :
    components ⟨slash :: bs⟩ = .root :: (splitOn slash bs).filterMap component? := by
  simp [components]

/-- Slashes at the end of an absolute path do not count. -/
theorem components_append_slashes (bs : Bytes) (n : Nat) :
    components ⟨slash :: (bs ++ .replicate n slash)⟩ = components ⟨slash :: bs⟩ := by
  induction n with
  | zero => simp
  | succ n ih =>
      rw [← ih, List.replicate_succ', ← List.append_assoc, components_cons_slash,
        components_cons_slash, splitOn_append_separator, List.filterMap_append]
      simp [component?]

theorem within_of_components_eq {p directory : FilePath}
    (same : directory.components = p.components) : p.within directory = true := by
  rw [within, same]
  exact List.isPrefixOf_iff_prefix.mpr List.prefix_rfl

end FilePath

theorem Utf8.encode_replicate_slash (n : Nat) :
    encode (.replicate n '/') = .replicate n FilePath.slash := by
  induction n with
  | zero => rfl
  | succ n ih =>
      rw [List.replicate_succ, encode_cons, ih]
      rfl

namespace Folder

variable {f : Folder} {p directory : FilePath}

/-- The directory of a folder with a usual path has the components of the path. -/
theorem components_path? (usual : p.IsUsual) (absolute : p.bytes.head? = some FilePath.slash)
    (here : f.uri.filePath? = some p) (place : f.path? = some directory) :
    directory.components = p.components := by
  rw [path?, here, Option.map_some] at place
  have place := Option.some.inj place
  dsimp only at place
  obtain ⟨tail, split, separators⟩ :=
    Text.exists_eq_append_dropEndWhile isSeparator p.text.toList
  generalize Text.dropEndWhile isSeparator p.text.toList = trimmed at place split
  have slashes : tail = .replicate tail.length '/' := by
    refine List.eq_replicate_iff.mpr ⟨rfl, fun c member => ?_⟩
    have noBackslash : c ≠ '\\' := by
      rintro rfl
      exact usual.plain (split ▸ List.mem_append_right _ member)
    simpa [isSeparator, noBackslash] using separators c member
  have bytes : p.bytes = Utf8.encode trimmed ++ .replicate tail.length FilePath.slash := by
    rw [← congrArg FilePath.bytes usual.isText, FilePath.ofString, bytesOf, split,
      Utf8.encode_append, slashes, Utf8.encode_replicate_slash, List.length_replicate]
  split at place
  · rw [place]
  · next named =>
    subst place
    obtain ⟨b, rest, spelled⟩ : ∃ b rest, Utf8.encode trimmed = b :: rest := by
      refine List.exists_cons_of_ne_nil fun empty => named ?_
      rw [Utf8.encode_eq_nil_iff.mp empty]
      rfl
    rw [spelled] at bytes
    obtain rfl : b = FilePath.slash := by
      rw [bytes] at absolute
      exact Option.some.inj absolute
    have whole : p = ⟨FilePath.slash :: (rest ++ .replicate tail.length FilePath.slash)⟩ :=
      congrArg FilePath.mk bytes
    rw [whole, spelled, FilePath.components_append_slashes]

end Folder

/-! ## Workspaces -/

namespace Workspace

/-- The workspace was made by adding and removing folders and by opening and closing documents. -/
inductive Built : Workspace → Prop
  | empty : Built {}
  | addFolder {w : Workspace} (built : w.Built) {f : Folder} (genuine : f.uri.IsGenuine) :
      Built (w.addFolder f)
  | removeFolder {w : Workspace} (built : w.Built) (uri : Uri) : Built (w.removeFolder uri)
  | openDocument {w : Workspace} (built : w.Built) (d : Document) : Built (w.openDocument d)
  | closeDocument {w : Workspace} (built : w.Built) (uri : Uri) : Built (w.closeDocument uri)

variable {w : Workspace} {d e : Document} {f g : Folder}

theorem Built.genuine (built : w.Built) (member : f ∈ w.folders) : f.uri.IsGenuine := by
  induction built with
  | empty => cases member
  | addFolder built genuine ih =>
      unfold Workspace.addFolder at member
      split at member
      · exact ih member
      · rcases List.mem_append.mp member with before | new
        · exact ih before
        · rwa [List.mem_singleton.mp new]
  | removeFolder built uri ih => exact ih (mem_folders_removeFolder.mp member).1
  | openDocument built d ih | closeDocument built uri ih => exact ih member

/-- No two folders have one URI. -/
theorem Built.distinct (built : w.Built) :
    w.folders.Pairwise fun f g => f.uri.text ≠ g.uri.text := by
  induction built with
  | empty => exact .nil
  | @addFolder w built f genuine ih =>
      unfold Workspace.addFolder
      split
      · exact ih
      · next unknown =>
        refine List.pairwise_append.mpr ⟨ih, List.pairwise_singleton _ _, ?_⟩
        intro g before new last same
        rw [List.mem_singleton.mp last] at same
        exact unknown (List.any_eq_true.mpr ⟨g, before, decide_eq_true same⟩)
  | removeFolder built uri ih => exact ih.filter _
  | openDocument built d ih | closeDocument built uri ih => exact ih

theorem Built.eq_of_text_eq (built : w.Built) (first : f ∈ w.folders) (second : g ∈ w.folders)
    (same : f.uri.text = g.uri.text) : f = g := by
  have distinct := built.distinct
  generalize w.folders = folders at first second distinct
  induction folders with
  | nil => cases first
  | cons h rest ih =>
      obtain ⟨apart, distinct⟩ := List.pairwise_cons.mp distinct
      rcases List.mem_cons.mp first with rfl | later <;>
        rcases List.mem_cons.mp second with rfl | later'
      · rfl
      · exact absurd same (apart g later')
      · exact absurd same.symm (apart f later)
      · exact ih later later' distinct

/-- A file in the directory of a folder lies in that folder or in another one. -/
theorem exists_folderFor? {uri : Uri} {p directory : FilePath} (file : uri.scheme = Uri.fileScheme)
    (here : uri.filePath? = some p) (member : f ∈ w.folders) (place : f.path? = some directory)
    (within : p.within directory) : ∃ g, w.folderFor? uri = some g := by
  have candidate : (directory, f) ∈ enclosing w.folders p := by
    refine List.mem_filter.mpr ⟨List.mem_filterMap.mpr ⟨f, member, ?_⟩, within⟩
    rw [place]
    rfl
  obtain ⟨first, rest, candidates⟩ :=
    List.exists_cons_of_ne_nil (List.ne_nil_of_mem candidate)
  rw [folderFor?, if_neg (not_not_intro file), here]
  dsimp only
  rw [candidates]
  exact ⟨_, rfl⟩

/-- The folder around a file has a directory. -/
theorem exists_path?_of_folderFor? {uri : Uri} (inside : w.folderFor? uri = some f) :
    ∃ directory, f.path? = some directory := by
  unfold folderFor? at inside
  split at inside
  · cases inside
  · split at inside
    · cases inside
    · obtain ⟨found, innermost, rfl⟩ := Option.map_eq_some_iff.mp inside
      obtain ⟨listed, -⟩ := List.mem_filter.mp (mem_of_innermost? innermost)
      obtain ⟨f, -, placed⟩ := List.mem_filterMap.mp listed
      obtain ⟨directory, place, rfl⟩ := Option.map_eq_some_iff.mp placed
      exact ⟨directory, place⟩

theorem folderFor?_of_isCell (cell : d.isCell) : w.folderFor? d.uri = none := by
  cases inside : w.folderFor? d.uri with
  | none => rfl
  | some f =>
      have file : d.isFile := decide_eq_true (mem_folders_of_folderFor? inside).1
      exact absurd cell (Document.not_isCell_of_isFile file)

/-! ## Documents that share a key -/

/-- How the scope of `d` can have the key of the scope of `e` and be another scope. -/
inductive Confuses (w : Workspace) (d e : Document) : Prop
  /-- Cells of notebooks in two directories, whose paths read alike. -/
  | cells {p q : FilePath} (first : d.isCell) (second : e.isCell) (here : d.filePath? = some p)
      (there : e.filePath? = some q) (alike : p.text = q.text) (apart : p.directory ≠ q.directory)
  /-- A file outside all folders, although its URI is that of the folder around the other one. -/
  | file {f : Folder} {p : FilePath} (file : d.isFile) (here : d.filePath? = some p)
      (outside : w.folderFor? d.uri = none) (inside : w.folderFor? e.uri = some f)
      (alike : d.uri.text = f.uri.text)
  /-- A cell of a notebook whose key reads like the URI of the folder around the other one. -/
  | notebook {f : Folder} {p : FilePath} (cell : d.isCell) (here : d.filePath? = some p)
      (inside : w.folderFor? e.uri = some f) (alike : .notebook p = ScopeKey.ofFolder f)

section

variable {home directory directory' : FilePath} {kind kind' : ScopeKind} {key key' : ScopeKey}
  {folder folder' : Option Folder}

theorem place_of_isCell (placed : Placed home d (w.folderFor? d.uri) kind key directory folder)
    (cell : d.isCell) {p : FilePath} (here : d.filePath? = some p) :
    kind = .notebook ∧ directory = p.directory := by
  cases placed with
  | cell _ here' =>
      cases here.symm.trans here'
      exact ⟨rfl, rfl⟩
  | inFolder inside => cases (folderFor?_of_isCell cell).symm.trans inside
  | buffer untitled => exact absurd cell (Document.not_isCell_of_isUntitled untitled)
  | stray file => exact absurd cell (Document.not_isCell_of_isFile file)

theorem kind_of_inside (placed : Placed home d (w.folderFor? d.uri) kind key directory folder)
    (inside : w.folderFor? d.uri = some f) : kind = .workspaceFolder := by
  have file : d.isFile := decide_eq_true (mem_folders_of_folderFor? inside).1
  cases placed with
  | cell cell => exact absurd cell (Document.not_isCell_of_isFile file)
  | inFolder => rfl
  | buffer untitled => exact absurd untitled (Document.not_isUntitled_of_isFile file)
  | stray _ outside => cases outside.symm.trans inside

theorem kind_of_outside (placed : Placed home d (w.folderFor? d.uri) kind key directory folder)
    (file : d.isFile) (outside : w.folderFor? d.uri = none) : kind = .strayFile := by
  cases placed with
  | cell cell => exact absurd cell (Document.not_isCell_of_isFile file)
  | inFolder inside => cases outside.symm.trans inside
  | buffer untitled => exact absurd untitled (Document.not_isUntitled_of_isFile file)
  | stray => rfl

/-- A document that confuses a key has another scope. -/
theorem Confuses.differ (confuses : w.Confuses d e)
    (one : Placed home d (w.folderFor? d.uri) kind key directory folder)
    (other : Placed home e (w.folderFor? e.uri) kind' key' directory' folder') :
    kind ≠ kind' ∨ directory ≠ directory' := by
  cases confuses with
  | cells first second here there _ apart =>
      obtain ⟨-, rfl⟩ := place_of_isCell one first here
      obtain ⟨-, rfl⟩ := place_of_isCell other second there
      exact .inr apart
  | file file _ outside inside =>
      rw [kind_of_outside one file outside, kind_of_inside other inside]
      exact .inl ScopeKind.noConfusion
  | notebook cell here inside =>
      rw [(place_of_isCell one cell here).1, kind_of_inside other inside]
      exact .inl ScopeKind.noConfusion

/-- Documents that share a key have one scope, or one of them confuses the key. -/
theorem Built.same_or_confuses (built : w.Built) (first : d.uri.IsGenuine)
    (second : e.uri.IsGenuine)
    (one : Placed home d (w.folderFor? d.uri) kind key directory folder)
    (other : Placed home e (w.folderFor? e.uri) kind' key' directory' folder')
    (shared : key = key') :
    (kind = kind' ∧ directory = directory' ∧ folder = folder') ∨
      w.Confuses d e ∨ w.Confuses e d := by
  cases one with
  | @cell p cell here =>
      cases other with
      | @cell q cell' there =>
          have alike : p.text = q.text := ScopeKey.notebook_eq_notebook_iff.mp shared
          by_cases same : p.directory = q.directory
          · refine .inl ⟨rfl, same, ?_⟩
            rw [folderFor?_of_isCell cell, folderFor?_of_isCell cell']
          · exact .inr (.inl (.cells cell cell' here there alike same))
      | inFolder inside => exact .inr (.inl (.notebook cell here inside shared))
      | buffer => exact absurd shared ScopeKey.notebook_ne_untitled
      | stray file => exact absurd shared.symm (ScopeKey.ofUri_ne_notebook_of_isFile file)
  | @inFolder f directory inside place =>
      cases other with
      | cell cell there => exact .inr (.inr (.notebook cell there inside shared.symm))
      | @inFolder g directory' inside' place' =>
          have same : f = g := built.eq_of_text_eq (mem_folders_of_folderFor? inside).2
            (mem_folders_of_folderFor? inside').2 (congrArg ScopeKey.text shared)
          subst same
          exact .inl ⟨rfl, Option.some.inj (place.symm.trans place'), rfl⟩
      | buffer => exact absurd shared ScopeKey.ofUri_ne_untitled
      | stray file outside there =>
          have alike := congrArg ScopeKey.text shared
          exact .inr (.inr (.file file there outside inside alike.symm))
  | buffer =>
      cases other with
      | cell => exact absurd shared.symm ScopeKey.notebook_ne_untitled
      | inFolder | stray => exact absurd shared.symm ScopeKey.ofUri_ne_untitled
      | buffer => exact .inl ⟨rfl, rfl, rfl⟩
  | @stray p file outside here =>
      cases other with
      | cell => exact absurd shared (ScopeKey.ofUri_ne_notebook_of_isFile file)
      | inFolder inside =>
          exact .inr (.inl (.file file here outside inside (congrArg ScopeKey.text shared)))
      | buffer => exact absurd shared ScopeKey.ofUri_ne_untitled
      | @stray q file' outside' there =>
          have same : p = q := Uri.eq_of_filePath?_of_text_eq first second (of_decide_eq_true file)
            here there (congrArg ScopeKey.text shared)
          rw [same]
          exact .inl ⟨rfl, rfl, rfl⟩

end

/-- Usual paths confuse nothing, unless a folder has the scheme a notebook's key begins with. -/
theorem Confuses.unusual (built : w.Built) (readFirst : d.uri.IsGenuine)
    (confuses : w.Confuses d e) :
    (∃ p, (d.filePath? = some p ∨ e.filePath? = some p) ∧ ¬ p.IsUsual) ∨
      ∃ f ∈ w.folders, f.uri.scheme = "vscode-notebook" := by
  cases confuses with
  | @cells p q _ _ here there alike apart =>
      refine .inl (Classical.not_not.mp fun allUsual => apart ?_)
      have usual : ∀ r, d.filePath? = some r ∨ e.filePath? = some r → r.IsUsual := fun r either =>
        Classical.not_not.mp fun unusual => allUsual ⟨r, either, unusual⟩
      rw [← (usual p (.inl here)).isText, ← (usual q (.inr there)).isText, alike]
  | @file f p file here outside inside alike =>
      refine .inl ⟨p, .inl here, fun usual => ?_⟩
      obtain ⟨directory, place⟩ := exists_path?_of_folderFor? inside
      obtain ⟨-, member⟩ := mem_folders_of_folderFor? inside
      have isFile : d.uri.scheme = Uri.fileScheme := of_decide_eq_true file
      obtain ⟨q, there, -⟩ := Option.map_eq_some_iff.mp place
      have same : p = q := Uri.eq_of_filePath?_of_text_eq readFirst (built.genuine member) isFile
        here there alike
      subst same
      have within := FilePath.within_of_components_eq
        (f.components_path? usual (Uri.isAbsolute_of_filePath? here) there place)
      obtain ⟨g, around⟩ := exists_folderFor? isFile here member place within
      cases outside.symm.trans around
  | @notebook f p cell here inside alike =>
      obtain ⟨-, member⟩ := mem_folders_of_folderFor? inside
      refine .inr ⟨f, member, Classical.not_not.mp fun other => ?_⟩
      exact ScopeKey.ofUri_ne_notebook (built.genuine member).isProper other alike.symm

/-- Documents with usual paths that share a key have one scope. -/
theorem same_scope_of_usual {home : FilePath} {s t : Scope} (built : w.Built)
    (readFirst : d.uri.IsGenuine) (readSecond : e.uri.IsGenuine)
    (usual : ∀ p, d.filePath? = some p ∨ e.filePath? = some p → p.IsUsual)
    (named : ∀ f ∈ w.folders, f.uri.scheme ≠ "vscode-notebook")
    (first : w.resolve home d = some s) (second : w.resolve home e = some t)
    (shared : s.key = t.key) :
    s.kind = t.kind ∧ s.workingDirectory = t.workingDirectory ∧ s.folder = t.folder := by
  have one := placed_of_resolve first
  have other := placed_of_resolve second
  refine (built.same_or_confuses readFirst readSecond one other shared).resolve_right ?_
  rintro (confuses | confuses)
  · rcases confuses.unusual built readFirst with ⟨p, here, unusual⟩ | ⟨f, member, scheme⟩
    · exact unusual (usual p here)
    · exact named f member scheme
  · rcases confuses.unusual built readSecond with ⟨p, here, unusual⟩ | ⟨f, member, scheme⟩
    · exact unusual (usual p here.symm)
    · exact named f member scheme

/-! ### Two files in a folder -/

def oneFolder : Workspace :=
  Workspace.addFolder {} { uri := fileAt "/w", name := "w" }

theorem built_oneFolder : oneFolder.Built :=
  Built.empty.addFolder (.inr ⟨_, show Uri.ofFilePath? (.ofString "/w") = _ by decide +kernel⟩)

/-- Two files in the folder share its key. -/
theorem exists_resolve_oneFolder :
    ∃ s t, oneFolder.resolve ⟨[]⟩ ⟨fileAt "/w/a.r", rLanguage⟩ = some s ∧
      oneFolder.resolve ⟨[]⟩ ⟨fileAt "/w/b.rmd", rmdLanguage⟩ = some t ∧ s.key = t.key ∧
      s.kind = t.kind ∧ s.workingDirectory = t.workingDirectory ∧ s.folder = t.folder := by
  obtain ⟨s, resolved⟩ : ∃ s, oneFolder.resolve ⟨[]⟩ ⟨fileAt "/w/a.r", rLanguage⟩ = some s :=
    Option.isSome_iff_exists.mp (by decide +kernel)
  obtain ⟨t, resolved'⟩ : ∃ t, oneFolder.resolve ⟨[]⟩ ⟨fileAt "/w/b.rmd", rmdLanguage⟩ = some t :=
    Option.isSome_iff_exists.mp (by decide +kernel)
  have facts : (oneFolder.resolve ⟨[]⟩ ⟨fileAt "/w/a.r", rLanguage⟩).map
        (fun s => (s.key, s.kind, s.workingDirectory, s.folder)) =
      (oneFolder.resolve ⟨[]⟩ ⟨fileAt "/w/b.rmd", rmdLanguage⟩).map
        fun t => (t.key, t.kind, t.workingDirectory, t.folder) := by
    decide +kernel
  rw [resolved, resolved'] at facts
  simp only [Option.map_some, Option.some.injEq, Prod.mk.injEq] at facts
  exact ⟨s, t, resolved, resolved', facts⟩

theorem isGenuine_rFile : (fileAt "/w/a.r").IsGenuine :=
  .inr ⟨_, show Uri.ofFilePath? (.ofString "/w/a.r") = _ by decide +kernel⟩

theorem isGenuine_rmdFile : (fileAt "/w/b.rmd").IsGenuine :=
  .inr ⟨_, show Uri.ofFilePath? (.ofString "/w/b.rmd") = _ by decide +kernel⟩

/-- The two files are placed alike. -/
theorem same_scope_of_usual_files :
    ∃ s t, oneFolder.resolve ⟨[]⟩ ⟨fileAt "/w/a.r", rLanguage⟩ = some s ∧
      oneFolder.resolve ⟨[]⟩ ⟨fileAt "/w/b.rmd", rmdLanguage⟩ = some t ∧ s.key = t.key ∧
      s.kind = t.kind ∧ s.workingDirectory = t.workingDirectory ∧ s.folder = t.folder := by
  obtain ⟨s, t, resolved, resolved', shared, -⟩ := exists_resolve_oneFolder
  have here : (⟨fileAt "/w/a.r", rLanguage⟩ : Document).filePath? = some (.ofString "/w/a.r") := by
    decide +kernel
  have there : (⟨fileAt "/w/b.rmd", rmdLanguage⟩ : Document).filePath? =
      some (.ofString "/w/b.rmd") := by
    decide +kernel
  refine ⟨s, t, resolved, resolved', shared, same_scope_of_usual built_oneFolder isGenuine_rFile
    isGenuine_rmdFile ?_ ?_ resolved resolved' shared⟩
  · rintro p (found | found)
    · cases here.symm.trans found
      exact ⟨by decide +kernel, by decide +kernel⟩
    · cases there.symm.trans found
      exact ⟨by decide +kernel, by decide +kernel⟩
  · intro f member
    cases List.mem_singleton.mp member
    decide +kernel

/-- Two scopes with one key are the same, that is, of one kind, with one directory and in one
folder, unless one of the documents confuses the key. -/
theorem same_scope_iff {home : FilePath} {s t : Scope} (built : w.Built)
    (readFirst : d.uri.IsGenuine) (readSecond : e.uri.IsGenuine)
    (first : w.resolve home d = some s) (second : w.resolve home e = some t)
    (shared : s.key = t.key) :
    (s.kind = t.kind ∧ s.workingDirectory = t.workingDirectory ∧ s.folder = t.folder) ↔
      ¬ (w.Confuses d e ∨ w.Confuses e d) := by
  have one := placed_of_resolve first
  have other := placed_of_resolve second
  constructor
  · rintro ⟨kind, directory, -⟩ (confuses | confuses)
    · rcases confuses.differ one other with differ | differ
      · exact differ kind
      · exact differ directory
    · rcases confuses.differ other one with differ | differ
      · exact differ kind.symm
      · exact differ directory.symm
  · intro clear
    exact (built.same_or_confuses readFirst readSecond one other shared).resolve_right clear

/-- Two files in a folder share its key. They have one scope, so neither confuses the key. -/
theorem same_scope_iff_files :
    let w := Workspace.addFolder {} { uri := fileAt "/w", name := "w" }
    let first : Document := ⟨fileAt "/w/a.r", rLanguage⟩
    let second : Document := ⟨fileAt "/w/b.rmd", rmdLanguage⟩
    ∃ s t, w.resolve ⟨[]⟩ first = some s ∧ w.resolve ⟨[]⟩ second = some t ∧ s.key = t.key ∧
      w.Built ∧ first.uri.IsGenuine ∧ second.uri.IsGenuine ∧
      ¬ (w.Confuses first second ∨ w.Confuses second first) := by
  intro w first second
  obtain ⟨s, t, resolved, resolved', shared, same⟩ := exists_resolve_oneFolder
  exact ⟨s, t, resolved, resolved', shared, built_oneFolder, isGenuine_rFile, isGenuine_rmdFile,
    (same_scope_iff built_oneFolder isGenuine_rFile isGenuine_rmdFile resolved resolved' shared).mp
      same⟩

/-- What tells scopes apart, of the scope of the R document with a URI. -/
def placeOf (w : Workspace) (uri : String) :
    Option (ScopeKey × ScopeKind × FilePath × Option Folder) := do
  let uri ← (Uri.parse uri).toOption
  let scope ← w.resolve ⟨[]⟩ ⟨uri, rLanguage⟩
  return (scope.key, scope.kind, scope.workingDirectory, scope.folder)

/-- Two notebooks in two directories, a file and the folder that its URI names, and a notebook and a
folder whose URI reads like its key: each two have one key, but not one scope. -/
theorem keys_are_confused :
    let folder (scheme path : String) (authority : Option String) : Folder :=
      { uri := { scheme, authority, path, query := none, fragment := none }, name := "" }
    let trimmed := folder Uri.fileScheme "/w%5C" (some "")
    let marked := folder "vscode-notebook" "/w" none
    (placeOf {} "vscode-notebook-cell:/%FF/a.ipynb" =
        some (⟨"vscode-notebook:/\uFFFD/a.ipynb"⟩, .notebook, ⟨[0x2F, 0xFF]⟩, none) ∧
      placeOf {} "vscode-notebook-cell:/%FE/a.ipynb" =
        some (⟨"vscode-notebook:/\uFFFD/a.ipynb"⟩, .notebook, ⟨[0x2F, 0xFE]⟩, none)) ∧
    (placeOf { folders := [trimmed] } "file:///w%5C" =
        some (⟨"file:///w%5C"⟩, .strayFile, .ofString "/", none) ∧
      placeOf { folders := [trimmed] } "file:///w/a.r" =
        some (⟨"file:///w%5C"⟩, .workspaceFolder, .ofString "/w", some trimmed)) ∧
    (placeOf { folders := [marked] } "vscode-notebook-cell:/w" =
        some (⟨"vscode-notebook:/w"⟩, .notebook, .ofString "/", none) ∧
      placeOf { folders := [marked] } "file:///w/a.r" =
        some (⟨"vscode-notebook:/w"⟩, .workspaceFolder, .ofString "/w", some marked)) := by
  refine ⟨⟨?_, ?_⟩, ⟨?_, ?_⟩, ?_, ?_⟩ <;> decide +kernel

end Workspace

end RLanguageHost
