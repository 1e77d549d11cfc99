import RLanguageHost.Proofs.Lifecycle.Routing

/-!
# What selectors claim

A selector holds the path of its file, notebook or folder as a pattern. If the path is ordinary,
that is the bytes of a text in which no character means anything else in a pattern, then the
pattern is exact: a file or notebook is claimed under its own path alone, and a folder claims what
lies below it, its path and a slash coming first. So a folder never claims the files of a sibling
whose name only begins like its own.

The two filters of a folder or of the untitled buffers differ in the language alone.
-/

namespace RLanguageHost

/-- A path that is the bytes of a text with no character of a pattern in it. -/
structure FilePath.IsOrdinary (p : FilePath) : Prop where
  isText : FilePath.ofString p.text = p
  literal : Glob.Literal p.text.toList

section

variable {p q : FilePath}

/-! ## Ordinary paths as patterns -/

theorem patternMatches_text_iff_of_isOrdinary (ordinary : p.IsOrdinary) :
    patternMatches p.text q = true ↔ q = p := by
  rw [patternMatches_text_iff]
  constructor
  · intro fits
    exact (fits.eq_of_literal ordinary.literal).trans ordinary.isText
  · rintro rfl
    exact .spelled ordinary.literal ordinary.isText.symm

theorem readTokens_below {r : Glob.Reader} {tokens : List Glob.Token} (outside : r.groups = [])
    (current : r.current = tokens ++ [.literal '/']) :
    Glob.readTokens r (some '/') ['*', '*', '/', '*'] =
      some (tokens ++ [.directoriesBetween, .anyRun]) := by
  have stars : r.stars (some '/') ['/', '*'] =
      ({ r with current := tokens ++ [.directoriesBetween] }, 1) := by
    unfold Glob.Reader.stars
    rw [if_neg (by simp [current]), if_neg (by simp [Glob.Reader.startsName])]
    simp [Glob.Reader.directories, current]
  rw [Glob.readTokens, stars]
  simp [Glob.readTokens, Glob.Reader.push, outside]

/-- Below a literal path, two stars take the slash before them into their part of the pattern. -/
theorem parse?_patternBelow (literal : Glob.Literal p.text.toList) :
    Glob.parse? (Rule.patternBelow p) =
      some (p.text.toList.map .literal ++ [.directoriesBetween, .anyRun]) := by
  have text : (Rule.patternBelow p).toList = (p.text.toList ++ ['/']) ++ ['*', '*', '/', '*'] := by
    rw [Rule.patternBelow, String.toList_append, List.append_assoc]
    rfl
  have literal' : Glob.Literal (p.text.toList ++ ['/']) := by
    intro c member
    rcases List.mem_append.mp member with inPath | last
    · exact literal c inPath
    · rw [List.mem_singleton.mp last]
      decide
  rw [Glob.parse?, text, Glob.readTokens_literal_append rfl literal', List.getLast?_concat]
  exact readTokens_below rfl (by simp)

theorem patternMatches_patternBelow_iff (ordinary : p.IsOrdinary) :
    patternMatches (Rule.patternBelow p) q = true ↔
      ∃ rest, q.bytes = p.bytes ++ FilePath.slash :: rest := by
  have bytes : Utf8.encode p.text.toList = p.bytes := congrArg FilePath.bytes ordinary.isText
  rw [patternMatches, parse?_patternBelow ordinary.literal]
  dsimp only
  rw [Glob.isMatch_iff (by cases p.text.toList <;> simp), Glob.pieces_append,
    Glob.pieces_map_literal, bytes, Glob.denotes_singles_append_iff]
  constructor
  · rintro ⟨left, whole, below⟩
    obtain ⟨rest, rfl⟩ := Glob.denotes_below_iff.mp below
    exact ⟨rest, whole⟩
  · rintro ⟨rest, whole⟩
    exact ⟨_, whole, Glob.denotes_below_iff.mpr ⟨rest, rfl⟩⟩

end

/-! ## Selectors -/

section

variable {scheme : String} {pattern : Option String} {e : Document}

theorem matches_singleton_iff {filter : Filter} :
    Selector.matches [filter] e = true ↔ filter.matches e = true := by
  simp [Selector.matches]

/-- Two filters for R and for R Markdown claim the documents of both languages. -/
theorem matches_languages_iff :
    Selector.matches [Rule.filter scheme (some rLanguage) pattern,
        Rule.filter scheme (some rmdLanguage) pattern] e = true ↔
      scheme = e.uri.scheme ∧ e.hasTargetLanguage ∧
        ∀ p ∈ pattern, ∃ path, e.filePath? = some path ∧ patternMatches p path := by
  have either : Selector.matches [Rule.filter scheme (some rLanguage) pattern,
        Rule.filter scheme (some rmdLanguage) pattern] e = true ↔
      (Rule.filter scheme (some rLanguage) pattern).matches e = true ∨
        (Rule.filter scheme (some rmdLanguage) pattern).matches e = true := by
    simp [Selector.matches]
  have target : e.hasTargetLanguage = true ↔
      rLanguage = e.language ∨ rmdLanguage = e.language := by
    rw [eq_comm (a := rLanguage), eq_comm (a := rmdLanguage)]
    simp [Document.hasTargetLanguage, isTargetLanguage]
  have spoken : ∀ language, (∀ l ∈ some language, l = e.language) ↔ language = e.language := by
    simp
  rw [either, target, Rule.filter_matches_iff, Rule.filter_matches_iff, spoken, spoken,
    ← and_or_left, ← or_and_right]

theorem file_scheme_iff : Uri.fileScheme = e.uri.scheme ↔ e.isFile := by
  rw [Document.isFile, decide_eq_true_iff, eq_comm]

theorem untitled_scheme_iff : untitledScheme = e.uri.scheme ↔ e.isUntitled := by
  rw [Document.isUntitled, decide_eq_true_iff, eq_comm]

end

variable {home : FilePath} {d : Document} {folder : Option Folder} {scope : Scope}

/-- Which documents a scope claims. The untitled buffers are claimed in both languages. A file is
claimed under its own path in any language, and a notebook's cells under its path in R; a folder
claims the files of both languages below it. For these the path has to be ordinary; whatever the
document's path is, its bytes then decide. -/
theorem selector_claims_exactly (resolved : resolve home d folder = some scope) :
    (scope.kind = .untitled →
      ∀ e, scope.selector.matches e ↔ e.isUntitled ∧ e.hasTargetLanguage) ∧
    (scope.kind = .strayFile → ∃ p, d.filePath? = some p ∧ (p.IsOrdinary →
      ∀ e, scope.selector.matches e ↔ e.isFile ∧ e.filePath? = some p)) ∧
    (scope.kind = .notebook → ∃ p, d.filePath? = some p ∧ (p.IsOrdinary →
      ∀ e, scope.selector.matches e ↔
        e.uri.scheme = d.uri.scheme ∧ e.language = rLanguage ∧ e.filePath? = some p)) ∧
    (scope.kind = .workspaceFolder → ∃ f p, folder = some f ∧ f.path? = some p ∧ (p.IsOrdinary →
      ∀ e, scope.selector.matches e ↔
        e.isFile ∧ e.hasTargetLanguage ∧
          ∃ q rest, e.filePath? = some q ∧ q.bytes = p.bytes ++ FilePath.slash :: rest)) := by
  obtain ⟨-, named | named | named | ⟨-, named⟩⟩ :=
    Rule.named_of_decide (decide_of_resolve resolved)
  · obtain ⟨cell, p, here, rfl⟩ := Rule.eq_of_notebookCell named
    refine ⟨ScopeKind.noConfusion, ScopeKind.noConfusion, fun _ => ⟨p, here, ?_⟩,
      ScopeKind.noConfusion⟩
    intro ordinary e
    rw [matches_singleton_iff, Rule.filter_matches_iff, eq_comm (b := e.uri.scheme)]
    simp [patternMatches_text_iff_of_isOrdinary ordinary, eq_comm (a := rLanguage)]
  · obtain ⟨f, p, inside, place, rfl⟩ := Rule.eq_of_workspaceFolder named
    refine ⟨ScopeKind.noConfusion, ScopeKind.noConfusion, ScopeKind.noConfusion,
      fun _ => ⟨f, p, inside, place, ?_⟩⟩
    intro ordinary e
    rw [matches_languages_iff, file_scheme_iff]
    simp [patternMatches_patternBelow_iff ordinary]
  · obtain ⟨untitled, rfl⟩ := Rule.eq_of_untitledBuffer named
    refine ⟨?_, ScopeKind.noConfusion, ScopeKind.noConfusion, ScopeKind.noConfusion⟩
    intro _ e
    rw [matches_languages_iff, untitled_scheme_iff]
    simp
  · obtain ⟨file, p, here, rfl⟩ := Rule.eq_of_strayFile named
    refine ⟨ScopeKind.noConfusion, fun _ => ⟨p, here, ?_⟩, ScopeKind.noConfusion,
      ScopeKind.noConfusion⟩
    intro ordinary e
    rw [matches_singleton_iff, Rule.filter_matches_iff, file_scheme_iff]
    simp [patternMatches_text_iff_of_isOrdinary ordinary]

/-- A folder claims a file deep below it whose names are a line break, a byte that is no text and
nothing at all, and no file of a sibling whose name begins like its own. A file outside every folder
is claimed under its own path alone. -/
theorem selector_claims_exactly_siblings :
    let folder : Folder := { uri := fileAt "/w", name := "" }
    let below : Document := ⟨fileAt "/w/x/%0A/%FF/", rmdLanguage⟩
    let sibling : Document := ⟨fileAt "/w2/a.r", rLanguage⟩
    resolve ⟨[]⟩ ⟨fileAt "/w/a.r", rLanguage⟩ (some folder) = some (scopeAt "/w") ∧
      (FilePath.ofString "/w").IsOrdinary ∧ (scopeAt "/w").selector.matches below ∧
      ¬ (scopeAt "/w").selector.matches sibling ∧
      ∃ scope, resolve ⟨[]⟩ sibling none = some scope ∧ scope.kind = .strayFile ∧
        scope.selector.matches sibling ∧ ¬ scope.selector.matches below := by
  intro folder below sibling
  have resolved :
      resolve ⟨[]⟩ ⟨fileAt "/w/a.r", rLanguage⟩ (some folder) = some (scopeAt "/w") := by
    decide +kernel
  have isOrdinary : ∀ path ∈ ["/w", "/w2/a.r"], (FilePath.ofString path).IsOrdinary := by
    have text : ∀ path ∈ ["/w", "/w2/a.r"], (FilePath.ofString path).text = path := by
      decide +kernel
    have literal : ∀ path ∈ ["/w", "/w2/a.r"],
        path.toList.all fun c => !List.contains ['?', '*', '[', '\x7b', '\x7d', '\\'] c := by
      decide +kernel
    intro path member
    refine ⟨by rw [text path member], fun c inside => ?_⟩
    rw [text path member] at inside
    have plain := List.all_eq_true.mp (literal path member) c inside
    rwa [Bool.not_eq_true', List.contains_eq_mem, decide_eq_false_iff_not] at plain
  have ordinary := isOrdinary "/w" List.mem_cons_self
  have ordinary' := isOrdinary "/w2/a.r" (List.mem_cons_of_mem _ List.mem_cons_self)
  have deep : below.filePath? = some ⟨bytesOf "/w/x/\n/" ++ [0xFF, FilePath.slash]⟩ := by
    decide +kernel
  have other : sibling.filePath? = some (.ofString "/w2/a.r") := by
    decide +kernel
  obtain ⟨-, -, -, claims⟩ := selector_claims_exactly resolved
  obtain ⟨f, p, inside, place, exactly⟩ := claims rfl
  obtain rfl : folder = f := Option.some.inj inside
  obtain rfl : .ofString "/w" = p :=
    Option.some.inj (Eq.trans (by decide +kernel) place)
  refine ⟨resolved, ordinary, ?_, ?_, ?_⟩
  · rw [exactly ordinary]
    exact ⟨rfl, rfl, _, bytesOf "x/\n/" ++ [0xFF, FilePath.slash], deep, by decide +kernel⟩
  · rw [exactly ordinary]
    rintro ⟨-, -, q, rest, here, spelled⟩
    obtain rfl : .ofString "/w2/a.r" = q := Option.some.inj (other.symm.trans here)
    have apart : ¬ (FilePath.ofString "/w").bytes ++ [FilePath.slash] <+:
        (FilePath.ofString "/w2/a.r").bytes := by
      decide +kernel
    exact apart ⟨rest, by rw [spelled, List.append_assoc]; rfl⟩
  · have stray : (resolve ⟨[]⟩ sibling none).map (·.kind) = some .strayFile := by
      decide +kernel
    obtain ⟨scope, alone, kind⟩ := Option.map_eq_some_iff.mp stray
    obtain ⟨-, claims, -⟩ := selector_claims_exactly alone
    obtain ⟨p, here, exactly⟩ := claims kind
    obtain rfl : .ofString "/w2/a.r" = p := Option.some.inj (other.symm.trans here)
    refine ⟨scope, alone, kind, ?_, ?_⟩
    · rw [exactly ordinary']
      exact ⟨rfl, other⟩
    · rw [exactly ordinary', deep]
      rintro ⟨-, same⟩
      exact absurd same (by decide +kernel)

end RLanguageHost
