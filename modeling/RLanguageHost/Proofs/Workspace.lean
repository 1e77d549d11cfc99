import RLanguageHost.Proofs.Uri.Text
import RLanguageHost.Workspace

/-!
# What a workspace holds

The open documents and the folders of a workspace are lists; here is what each change of the
workspace does to the members of either. A document is known by the text of its URI: to open it
again replaces it, and to close it takes out all that have this text.

`IsInnermost` says which folder lies around a path, without reference to how it is looked for: no
folder around the path is deeper, and none that was added later is as deep. There is one exactly if
some folder lies around the path, and it is what `folderFor?` gives. Folders around one path lie in
one another, so two of them that are equally deep have the same directory; where no two folders have
the same directory, the order in which they were added does not matter therefore.
-/

namespace RLanguageHost

namespace Workspace

variable {w : Workspace} {d e : Document} {f : Folder}

/-! ## Documents -/

theorem mem_insertDocument_self (d : Document) (documents : List Document) :
    d ∈ insertDocument d documents := by
  induction documents with
  | nil => exact List.mem_cons_self
  | cons first rest ih =>
      rw [insertDocument]
      split
      · exact List.mem_cons_self
      · split
        · exact List.mem_cons_self
        · exact List.mem_cons_of_mem _ ih

theorem eq_or_mem_of_mem_insertDocument {documents : List Document}
    (h : e ∈ insertDocument d documents) : e = d ∨ e ∈ documents := by
  induction documents with
  | nil => exact .inl (List.mem_singleton.mp h)
  | cons first rest ih =>
      rw [insertDocument] at h
      split at h
      · exact List.mem_cons.mp h
      · split at h
        · exact (List.mem_cons.mp h).imp id (List.mem_cons_of_mem _)
        · rcases List.mem_cons.mp h with rfl | later
          · exact .inr List.mem_cons_self
          · exact (ih later).imp id (List.mem_cons_of_mem _)

/-- Only a document with the same URI makes way for one that is put in. -/
theorem mem_insertDocument_of_mem {documents : List Document} (h : e ∈ documents) :
    e ∈ insertDocument d documents ∨ d.uri.text = e.uri.text := by
  induction documents with
  | nil => cases h
  | cons first rest ih =>
      rw [insertDocument]
      split
      · exact .inl (List.mem_cons_of_mem _ h)
      · split
        · next same =>
          rcases List.mem_cons.mp h with rfl | later
          · exact .inr same
          · exact .inl (List.mem_cons_of_mem _ later)
        · rcases List.mem_cons.mp h with rfl | later
          · exact .inl List.mem_cons_self
          · exact (ih later).imp (List.mem_cons_of_mem _) id

theorem mem_documents_closeDocument {uri : Uri} :
    e ∈ (w.closeDocument uri).documents ↔ e ∈ w.documents ∧ e.uri.text ≠ uri.text := by
  simp [closeDocument]

/-- The document that was recorded for a URI is an open one with the text of the URI. -/
theorem mem_of_document? {uri : Uri} (h : w.document? uri = some d) :
    d ∈ w.documents ∧ d.uri.text = uri.text :=
  ⟨List.mem_of_find?_eq_some h, by simpa using List.find?_some h⟩

/-! ## Folders -/

theorem documents_addFolder : (w.addFolder f).documents = w.documents := by
  unfold addFolder
  split <;> rfl

theorem mem_folders_addFolder_of_mem {g : Folder} (h : g ∈ w.folders) :
    g ∈ (w.addFolder f).folders := by
  unfold addFolder
  split
  · exact h
  · exact List.mem_append_left _ h

theorem mem_folders_removeFolder {uri : Uri} :
    f ∈ (w.removeFolder uri).folders ↔ f ∈ w.folders ∧ f.uri.text ≠ uri.text := by
  simp [removeFolder]

/-- Folders that are added take nothing away. -/
theorem addFolders_keeps (added : List Folder) (w : Workspace) :
    (added.foldl addFolder w).documents = w.documents ∧
      ∀ f ∈ w.folders, f ∈ (added.foldl addFolder w).folders := by
  induction added generalizing w with
  | nil => exact ⟨rfl, fun _ => id⟩
  | cons first rest ih =>
      obtain ⟨documents, folders⟩ := ih (w.addFolder first)
      exact ⟨documents.trans documents_addFolder,
        fun f member => folders f (mem_folders_addFolder_of_mem member)⟩

/-- Only folders with the URI of a removed one go. -/
theorem removeFolders_keeps (removed : List Folder) (w : Workspace) :
    let t := removed.foldl (fun w folder => w.removeFolder folder.uri) w
    t.documents = w.documents ∧
      ∀ f ∈ w.folders, f ∈ t.folders ∨ ∃ g ∈ removed, g.uri.text = f.uri.text := by
  induction removed generalizing w with
  | nil => exact ⟨rfl, fun _ => .inl⟩
  | cons first rest ih =>
      obtain ⟨documents, folders⟩ := ih (w.removeFolder first.uri)
      refine ⟨documents, fun f member => ?_⟩
      by_cases same : first.uri.text = f.uri.text
      · exact .inr ⟨first, List.mem_cons_self, same⟩
      · rcases folders f (mem_folders_removeFolder.mpr ⟨member, Ne.symm same⟩) with stays | gone
        · exact .inl stays
        · obtain ⟨g, later, same⟩ := gone
          exact .inr ⟨g, List.mem_cons_of_mem _ later, same⟩

/-! ## The folder around a file -/

theorem mem_of_foldl_deeper (first : FilePath × Folder) (rest : List (FilePath × Folder)) :
    rest.foldl deeper first ∈ first :: rest := by
  induction rest generalizing first with
  | nil => exact List.mem_cons_self
  | cons next rest ih =>
      have either : deeper first next = first ∨ deeper first next = next := by
        unfold deeper
        split
        · exact .inl rfl
        · exact .inr rfl
      rw [List.foldl_cons]
      rcases List.mem_cons.mp (ih (deeper first next)) with same | later
      · rw [same]
        rcases either with old | new
        · rw [old]
          exact List.mem_cons_self
        · rw [new]
          exact List.mem_cons_of_mem _ List.mem_cons_self
      · exact List.mem_cons_of_mem _ (List.mem_cons_of_mem _ later)

theorem mem_of_innermost? {candidates : List (FilePath × Folder)} {found : FilePath × Folder}
    (h : innermost? candidates = some found) : found ∈ candidates := by
  cases candidates with
  | nil => cases h
  | cons first rest =>
      cases h
      exact mem_of_foldl_deeper first rest

theorem mem_of_mem_enclosing {folders : List Folder} {path : FilePath}
    {found : FilePath × Folder} (h : found ∈ enclosing folders path) : found.2 ∈ folders := by
  obtain ⟨listed, -⟩ := List.mem_filter.mp h
  obtain ⟨f, member, placed⟩ := List.mem_filterMap.mp listed
  obtain ⟨directory, -, rfl⟩ := Option.map_eq_some_iff.mp placed
  exact member

/-- Only a file lies in a folder, which is one of the workspace. -/
theorem mem_folders_of_folderFor? {uri : Uri} (h : w.folderFor? uri = some f) :
    uri.scheme = Uri.fileScheme ∧ f ∈ w.folders := by
  unfold folderFor? at h
  split at h
  · cases h
  · next file =>
    split at h
    · cases h
    · obtain ⟨found, innermost, rfl⟩ := Option.map_eq_some_iff.mp h
      exact ⟨Classical.not_not.mp file, mem_of_mem_enclosing (mem_of_innermost? innermost)⟩

end Workspace

namespace Folder

/-- The directory of the folder is the path or lies above it. -/
def Encloses (f : Folder) (path : FilePath) : Prop :=
  ∃ directory, f.path? = some directory ∧ directory.components <+: path.components

/-- The number of components of the folder's directory. -/
def depth (f : Folder) : Nat :=
  match f.path? with
  | some directory => directory.components.length
  | none => 0

theorem depth_of_path? {f : Folder} {directory : FilePath} (place : f.path? = some directory) :
    f.depth = directory.components.length := by
  rw [depth, place]

/-- Of the folders around one path there is only one directory of each depth. -/
theorem Encloses.same {f g : Folder} {path p q : FilePath} (first : f.Encloses path)
    (second : g.Encloses path) (equal : f.depth = g.depth) (place : f.path? = some p)
    (place' : g.path? = some q) : p.Same q := by
  obtain ⟨_, placed, above⟩ := first
  obtain ⟨_, placed', above'⟩ := second
  cases placed.symm.trans place
  cases placed'.symm.trans place'
  rw [depth_of_path? place, depth_of_path? place'] at equal
  exact (List.prefix_of_prefix_length_le above above' (Nat.le_of_eq equal)).eq_of_length equal

end Folder

namespace Workspace

variable {w v : Workspace} {f g : Folder} {folders : List Folder} {path : FilePath} {uri : Uri}

/-- The folder lies around the path, no folder around the path is deeper, and none that was added
later is as deep. -/
def IsInnermost (folders : List Folder) (path : FilePath) (f : Folder) : Prop :=
  f.Encloses path ∧ ∃ earlier later, folders = earlier ++ f :: later ∧
    (∀ g ∈ earlier, g.Encloses path → g.depth ≤ f.depth) ∧
    ∀ g ∈ later, g.Encloses path → g.depth < f.depth

theorem IsInnermost.mem (h : IsInnermost folders path f) : f ∈ folders := by
  obtain ⟨-, earlier, later, rfl, -⟩ := h
  exact List.mem_append_right _ List.mem_cons_self

theorem IsInnermost.depth_le (h : IsInnermost folders path f) (member : g ∈ folders)
    (around : g.Encloses path) : g.depth ≤ f.depth := by
  obtain ⟨-, earlier, later, rfl, left, right⟩ := h
  rcases List.mem_append.mp member with before | here
  · exact left g before around
  · rcases List.mem_cons.mp here with rfl | after
    · exact Nat.le_refl _
    · exact Nat.le_of_lt (right g after around)

/-- If some folder lies around a path, one of them is the innermost. -/
theorem exists_isInnermost (member : g ∈ folders) (around : g.Encloses path) :
    ∃ f, IsInnermost folders path f := by
  induction folders generalizing g with
  | nil => cases member
  | cons first rest ih =>
      by_cases inside : ∃ g ∈ rest, g.Encloses path
      · obtain ⟨g, member, around⟩ := inside
        obtain ⟨f, innermost⟩ := ih member around
        by_cases deeper : first.Encloses path ∧ f.depth < first.depth
        · refine ⟨first, deeper.1, [], rest, rfl, nofun, fun g member around => ?_⟩
          exact Nat.lt_of_le_of_lt (innermost.depth_le member around) deeper.2
        · obtain ⟨around, earlier, later, rfl, left, right⟩ := innermost
          refine ⟨f, around, first :: earlier, later, rfl, fun g member around => ?_, right⟩
          rcases List.mem_cons.mp member with rfl | before
          · exact Nat.le_of_not_lt fun less => deeper ⟨around, less⟩
          · exact left g before around
      · rcases List.mem_cons.mp member with rfl | later
        · exact ⟨g, around, [], rest, rfl, nofun, fun h member around' =>
            absurd ⟨h, member, around'⟩ inside⟩
        · exact absurd ⟨g, later, around⟩ inside

/-! ## More and fewer folders -/

theorem IsInnermost.concat (h : IsInnermost folders path f)
    (less : g.Encloses path → g.depth < f.depth) : IsInnermost (folders ++ [g]) path f := by
  obtain ⟨around, earlier, later, rfl, left, right⟩ := h
  refine ⟨around, earlier, later ++ [g], by simp, left, fun h member around' => ?_⟩
  rcases List.mem_append.mp member with before | last
  · exact right h before around'
  · rw [List.mem_singleton.mp last] at around' ⊢
    exact less around'

theorem isInnermost_concat_self (around : f.Encloses path)
    (bound : ∀ g ∈ folders, g.Encloses path → g.depth ≤ f.depth) :
    IsInnermost (folders ++ [f]) path f :=
  ⟨around, folders, [], rfl, bound, nofun⟩

theorem IsInnermost.filter (h : IsInnermost folders path f) {keep : Folder → Bool}
    (kept : keep f) : IsInnermost (folders.filter keep) path f := by
  obtain ⟨around, earlier, later, rfl, left, right⟩ := h
  refine ⟨around, earlier.filter keep, later.filter keep, ?_, fun g member => ?_,
    fun g member => ?_⟩
  · rw [List.filter_append, List.filter_cons_of_pos kept]
  · exact left g (List.mem_filter.mp member).1
  · exact right g (List.mem_filter.mp member).1

/-! ## How it is looked for -/

theorem foldl_deeper_eq {found : FilePath × Folder} {after : List (FilePath × Folder)}
    (less : ∀ c ∈ after, c.1.components.length < found.1.components.length) :
    after.foldl deeper found = found := by
  induction after with
  | nil => rfl
  | cons c rest ih =>
      have first : deeper found c = found := if_pos (less c List.mem_cons_self)
      rw [List.foldl_cons, first]
      exact ih fun c member => less c (List.mem_cons_of_mem _ member)

theorem innermost?_append_cons {before after : List (FilePath × Folder)}
    {found : FilePath × Folder}
    (left : ∀ c ∈ before, c.1.components.length ≤ found.1.components.length)
    (right : ∀ c ∈ after, c.1.components.length < found.1.components.length) :
    innermost? (before ++ found :: after) = some found := by
  cases before with
  | nil => exact congrArg some (foldl_deeper_eq right)
  | cons first rest =>
      have best := left _ (mem_of_foldl_deeper first rest)
      have next : deeper (rest.foldl deeper first) found = found :=
        if_neg (Nat.not_lt.mpr best)
      rw [List.cons_append, innermost?, List.foldl_append, List.foldl_cons, next,
        foldl_deeper_eq right]

theorem mem_enclosing_iff {directory : FilePath} :
    (directory, f) ∈ enclosing folders path ↔
      f ∈ folders ∧ f.path? = some directory ∧ directory.components <+: path.components := by
  rw [enclosing, List.mem_filter, List.mem_filterMap]
  constructor
  · rintro ⟨⟨g, member, placed⟩, within⟩
    obtain ⟨_, place, same⟩ := Option.map_eq_some_iff.mp placed
    cases same
    exact ⟨member, place, List.isPrefixOf_iff_prefix.mp within⟩
  · rintro ⟨member, place, above⟩
    exact ⟨⟨f, member, by rw [place]; rfl⟩, List.isPrefixOf_iff_prefix.mpr above⟩

theorem enclosing_append (first second : List Folder) (path : FilePath) :
    enclosing (first ++ second) path = enclosing first path ++ enclosing second path := by
  rw [enclosing, List.filterMap_append, List.filter_append]
  rfl

theorem IsInnermost.found (h : IsInnermost folders path f) :
    (innermost? (enclosing folders path)).map (·.2) = some f := by
  obtain ⟨⟨directory, place, above⟩, earlier, later, rfl, left, right⟩ := h
  have here : enclosing (f :: later) path = (directory, f) :: enclosing later path := by
    rw [enclosing, List.filterMap_cons, place]
    exact List.filter_cons_of_pos (List.isPrefixOf_iff_prefix.mpr above)
  have best := Folder.depth_of_path? place
  rw [enclosing_append, here, innermost?_append_cons]
  · rfl
  · intro ⟨d, g⟩ member
    obtain ⟨known, place', above'⟩ := mem_enclosing_iff.mp member
    rw [← best, ← Folder.depth_of_path? place']
    exact left g known ⟨d, place', above'⟩
  · intro ⟨d, g⟩ member
    obtain ⟨known, place', above'⟩ := mem_enclosing_iff.mp member
    rw [← best, ← Folder.depth_of_path? place']
    exact right g known ⟨d, place', above'⟩

theorem folderFor?_of_isInnermost (file : uri.scheme = Uri.fileScheme)
    (here : uri.filePath? = some path) (h : IsInnermost w.folders path f) :
    w.folderFor? uri = some f := by
  rw [folderFor?, if_neg (not_not_intro file), here]
  exact h.found

theorem isInnermost_of_folderFor? (h : w.folderFor? uri = some f) :
    uri.scheme = Uri.fileScheme ∧ ∃ path, uri.filePath? = some path ∧
      IsInnermost w.folders path f := by
  have file := (mem_folders_of_folderFor? h).1
  have found := h
  rw [folderFor?, if_neg (not_not_intro file)] at found
  cases here : uri.filePath? with
  | none =>
      rw [here] at found
      cases found
  | some path =>
      rw [here] at found
      obtain ⟨⟨directory, g⟩, innermost, rfl⟩ := Option.map_eq_some_iff.mp found
      obtain ⟨member, place, above⟩ := mem_enclosing_iff.mp (mem_of_innermost? innermost)
      obtain ⟨f, best⟩ := exists_isInnermost member ⟨directory, place, above⟩
      obtain rfl : f = g :=
        Option.some.inj ((folderFor?_of_isInnermost file here best).symm.trans h)
      exact ⟨file, path, rfl, best⟩

theorem folderFor?_eq_some_iff :
    w.folderFor? uri = some f ↔
      uri.scheme = Uri.fileScheme ∧ ∃ path, uri.filePath? = some path ∧
        IsInnermost w.folders path f := by
  constructor
  · exact isInnermost_of_folderFor?
  · rintro ⟨file, path, here, innermost⟩
    exact folderFor?_of_isInnermost file here innermost

theorem folderFor?_eq_none_iff :
    w.folderFor? uri = none ↔
      uri.scheme ≠ Uri.fileScheme ∨ uri.filePath? = none ∨
        ∃ path, uri.filePath? = some path ∧ ∀ f ∈ w.folders, ¬ f.Encloses path := by
  constructor
  · intro nothing
    by_cases file : uri.scheme = Uri.fileScheme
    · cases here : uri.filePath? with
      | none => exact .inr (.inl rfl)
      | some path =>
          refine .inr (.inr ⟨path, rfl, fun g member around => ?_⟩)
          obtain ⟨f, innermost⟩ := exists_isInnermost member around
          cases nothing.symm.trans (folderFor?_of_isInnermost file here innermost)
    · exact .inl file
  · intro outside
    cases found : w.folderFor? uri with
    | none => rfl
    | some f =>
        obtain ⟨file, path, here, innermost⟩ := isInnermost_of_folderFor? found
        rcases outside with other | pathless | ⟨path', here', free⟩
        · exact absurd file other
        · cases pathless.symm.trans here
        · cases here.symm.trans here'
          exact absurd innermost.1 (free f innermost.mem)

theorem folderFor?_eq_none_of_subset (found : w.folderFor? uri = none)
    (fewer : ∀ f ∈ v.folders, f ∈ w.folders) : v.folderFor? uri = none := by
  refine folderFor?_eq_none_iff.mpr ((folderFor?_eq_none_iff.mp found).imp_right (.imp_right ?_))
  rintro ⟨path, here, free⟩
  exact ⟨path, here, fun f member => free f (fewer f member)⟩

/-! ## Other folders, or other orders -/

/-- No two folders have the same directory. -/
def HasApartFolders (w : Workspace) : Prop :=
  ∀ f ∈ w.folders, ∀ g ∈ w.folders, ∀ p q, f.path? = some p → g.path? = some q → p.Same q → f = g

/-- Equally deep folders around one path are one folder, so it does not matter which comes last. -/
theorem HasApartFolders.folderFor?_eq (apart : w.HasApartFolders)
    (same : ∀ f, f ∈ v.folders ↔ f ∈ w.folders) (uri : Uri) :
    v.folderFor? uri = w.folderFor? uri := by
  cases found : w.folderFor? uri with
  | none => exact folderFor?_eq_none_of_subset found fun f => (same f).mp
  | some f =>
      obtain ⟨file, path, here, innermost⟩ := folderFor?_eq_some_iff.mp found
      obtain ⟨g, innermost'⟩ := exists_isInnermost ((same f).mpr innermost.mem) innermost.1
      have known : g ∈ w.folders := (same g).mp innermost'.mem
      have equal : f.depth = g.depth := Nat.le_antisymm
        (innermost'.depth_le ((same f).mpr innermost.mem) innermost.1)
        (innermost.depth_le known innermost'.1)
      obtain ⟨p, place, -⟩ := innermost.1
      obtain ⟨q, place', -⟩ := innermost'.1
      obtain rfl : f = g := apart f innermost.mem g known p q place place'
        (innermost.1.same innermost'.1 equal place place')
      exact folderFor?_of_isInnermost file here innermost'

theorem folders_addFolder (unknown : w.hasFolder f.uri = false) :
    (w.addFolder f).folders = w.folders ++ [f] := by
  rw [hasFolder] at unknown
  rw [addFolder, if_neg (by rw [unknown]; exact Bool.false_ne_true)]

theorem addFolder_of_hasFolder (known : w.hasFolder f.uri = true) : w.addFolder f = w :=
  if_pos known

/-- A folder would be found for a URI if it was added: it is unknown, and lies around the path with
no deeper one. -/
def TakesOver (w : Workspace) (uri : Uri) (f : Folder) : Prop :=
  w.hasFolder f.uri = false ∧ uri.scheme = Uri.fileScheme ∧ ∃ path, uri.filePath? = some path ∧
    f.Encloses path ∧ ∀ g ∈ w.folders, g.Encloses path → g.depth ≤ f.depth

theorem TakesOver.folderFor?_addFolder (h : w.TakesOver uri f) :
    (w.addFolder f).folderFor? uri = some f := by
  obtain ⟨unknown, file, path, here, around, bound⟩ := h
  refine folderFor?_of_isInnermost file here ?_
  rw [folders_addFolder unknown]
  exact isInnermost_concat_self around bound

theorem folderFor?_addFolder_of_not_takesOver (h : ¬ w.TakesOver uri f) :
    (w.addFolder f).folderFor? uri = w.folderFor? uri := by
  cases known : w.hasFolder f.uri with
  | true => rw [addFolder_of_hasFolder known]
  | false =>
      have folders := folders_addFolder known
      cases found : w.folderFor? uri with
      | some g =>
          obtain ⟨file, path, here, innermost⟩ := folderFor?_eq_some_iff.mp found
          refine folderFor?_of_isInnermost file here ?_
          rw [folders]
          refine innermost.concat fun around => Nat.lt_of_not_le fun enough => ?_
          exact h ⟨known, file, path, here, around, fun g' member around' =>
            Nat.le_trans (innermost.depth_le member around') enough⟩
      | none =>
          refine folderFor?_eq_none_iff.mpr ?_
          by_cases file : uri.scheme = Uri.fileScheme
          · refine .inr ((folderFor?_eq_none_iff.mp found).resolve_left (not_not_intro file)
              |>.imp_right ?_)
            rintro ⟨path, here, free⟩
            refine ⟨path, here, fun g member around => ?_⟩
            rw [folders] at member
            rcases List.mem_append.mp member with before | last
            · exact free g before around
            · obtain rfl := List.mem_singleton.mp last
              exact h ⟨known, file, path, here, around, fun g' before around' =>
                absurd around' (free g' before)⟩
          · exact .inl file

/-- To remove a folder changes the answer only where it was that folder. -/
theorem folderFor?_removeFolder (w : Workspace) (removed uri : Uri) :
    (w.removeFolder removed).folderFor? uri = w.folderFor? uri ∨
      ∃ f, w.folderFor? uri = some f ∧ f.uri.text = removed.text := by
  cases found : w.folderFor? uri with
  | none =>
      exact .inl (folderFor?_eq_none_of_subset found fun f member =>
        (mem_folders_removeFolder.mp member).1)
  | some f =>
      by_cases same : f.uri.text = removed.text
      · exact .inr ⟨f, rfl, same⟩
      · obtain ⟨file, path, here, innermost⟩ := folderFor?_eq_some_iff.mp found
        exact .inl (folderFor?_of_isInnermost file here (innermost.filter (by simpa using same)))

theorem removeFolder_addFolder (unknown : w.hasFolder f.uri = false) :
    (w.addFolder f).removeFolder f.uri = w := by
  have others : ∀ g ∈ w.folders, g.uri.text ≠ f.uri.text := by
    simpa [hasFolder] using unknown
  have kept : w.folders.filter (·.uri.text ≠ f.uri.text) = w.folders :=
    List.filter_eq_self.mpr fun g member => decide_eq_true (others g member)
  have documents := documents_addFolder (w := w) (f := f)
  rw [removeFolder, folders_addFolder unknown, List.filter_append, kept]
  simp [documents]

/-- Whatever folders a workspace has, the one that is found for a URI is the innermost around its
path, and none is found only if there is none. If no two folders have the same directory, the order
in which they were added is of no account. A folder that is added is found itself or changes
nothing, one that is removed changes nothing where it was not found, and to remove an unknown folder
that was added takes everything back. -/
theorem innermost_folder (w : Workspace) (uri : Uri) :
    (w.folderFor? uri = none ↔
      uri.scheme ≠ Uri.fileScheme ∨ uri.filePath? = none ∨
        ∃ path, uri.filePath? = some path ∧ ∀ f ∈ w.folders, ¬ f.Encloses path) ∧
      (∀ f, w.folderFor? uri = some f ↔
        uri.scheme = Uri.fileScheme ∧ ∃ path, uri.filePath? = some path ∧
          IsInnermost w.folders path f) ∧
      (w.HasApartFolders → ∀ v : Workspace, (∀ f, f ∈ v.folders ↔ f ∈ w.folders) →
        v.folderFor? uri = w.folderFor? uri) ∧
      (∀ f, w.TakesOver uri f ∧ (w.addFolder f).folderFor? uri = some f ∨
        ¬ w.TakesOver uri f ∧ (w.addFolder f).folderFor? uri = w.folderFor? uri) ∧
      (∀ removed : Uri, (w.removeFolder removed).folderFor? uri = w.folderFor? uri ∨
        ∃ f, w.folderFor? uri = some f ∧ f.uri.text = removed.text) ∧
      ∀ f, w.hasFolder f.uri = false → (w.addFolder f).removeFolder f.uri = w := by
  refine ⟨folderFor?_eq_none_iff, fun f => folderFor?_eq_some_iff,
    fun apart v same => apart.folderFor?_eq same uri, fun f => ?_,
    fun removed => folderFor?_removeFolder w removed uri, fun f => removeFolder_addFolder⟩
  by_cases takes : w.TakesOver uri f
  · exact .inl ⟨takes, takes.folderFor?_addFolder⟩
  · exact .inr ⟨takes, folderFor?_addFolder_of_not_takesOver takes⟩

/-- A folder in another one; the outer one is added last. Both lie around the file. -/
theorem innermost_folder_nested :
    let outer : Folder := { uri := fileAt "/home", name := "home" }
    let inner : Folder := { uri := fileAt "/home/u/", name := "u" }
    let w := ofFolders [outer, inner]
    let v := ofFolders [inner, outer]
    let file := fileAt "/home/u/a.r"
    w.HasApartFolders ∧ (∀ f, f ∈ v.folders ↔ f ∈ w.folders) ∧ w.hasFolder file = false ∧
      v.folderFor? file = some inner ∧ w.folderFor? file = some inner ∧
      (w.addFolder ⟨file, "a"⟩).removeFolder file = w := by
  intro outer inner w v file
  have apart : w.HasApartFolders := by
    have listed : w.folders = [outer, inner] := by decide +kernel
    have places : outer.path? = some (.ofString "/home") ∧
        inner.path? = some (.ofString "/home/u") := by decide +kernel
    have differ : ¬ FilePath.Same (.ofString "/home") (.ofString "/home/u") := by decide +kernel
    intro f first g second p q place place' same
    simp only [listed, List.mem_cons, List.not_mem_nil, or_false] at first second
    rcases first with rfl | rfl <;> rcases second with rfl | rfl
    · rfl
    · cases places.1.symm.trans place
      cases places.2.symm.trans place'
      exact absurd same differ
    · cases places.2.symm.trans place
      cases places.1.symm.trans place'
      exact absurd same.symm differ
    · rfl
  have listed : v.folders = [inner, outer] ∧ w.folders = [outer, inner] := by decide +kernel
  have same : ∀ f, f ∈ v.folders ↔ f ∈ w.folders := by
    intro f
    simp [listed, or_comm]
  have unknown : w.hasFolder file = false := by decide +kernel
  have found : w.folderFor? file = some inner := by decide +kernel
  obtain ⟨-, -, order, -, -, restored⟩ := innermost_folder w file
  exact ⟨apart, same, unknown, (order apart v same).trans found, found,
    restored ⟨file, "a"⟩ unknown⟩

end Workspace

end RLanguageHost
