import RLanguageHost.Attempt
import RLanguageHost.Uri.Parser

/-!
# Schemes and texts

Documents are told apart by the texts of their URIs, and treated by their schemes. The two go
together for a proper URI, whose scheme has no colon: it ends at the first colon of the text. Every
URI that was read is proper.
-/

namespace RLanguageHost.Uri

/-- The scheme of a URI ends at the first colon of its text. -/
def IsProper (uri : Uri) : Prop :=
  ':' ∉ uri.scheme.toList

theorem toList_text (uri : Uri) :
    ∃ rest, uri.text.toList = uri.scheme.toList ++ ':' :: rest := by
  refine ⟨uri.beforePath ++ uri.path.toList ++ marked '?' uri.query ++ marked '#' uri.fragment, ?_⟩
  simp [text]

/-- The text of a URI is never that of a word without a colon. -/
theorem text_ne_of_not_mem (uri : Uri) {word : String} (plain : ':' ∉ word.toList) :
    uri.text ≠ word := by
  rintro rfl
  obtain ⟨rest, split⟩ := uri.toList_text
  exact plain (split ▸ List.mem_append_right _ List.mem_cons_self)

theorem IsProper.takeWhile_text {uri : Uri} (proper : uri.IsProper) :
    uri.text.toList.takeWhile (· ≠ ':') = uri.scheme.toList := by
  obtain ⟨rest, split⟩ := uri.toList_text
  have before : ∀ c ∈ uri.scheme.toList, decide (c ≠ ':') = true :=
    fun c member => decide_eq_true (ne_of_mem_of_not_mem member proper)
  rw [split, List.takeWhile_append_of_pos before]
  simp

/-- Proper URIs with one text have one scheme. -/
theorem scheme_eq_of_text_eq {u v : Uri} (hu : u.IsProper) (hv : v.IsProper)
    (same : u.text = v.text) : u.scheme = v.scheme := by
  rw [← String.toList_inj, ← hu.takeWhile_text, ← hv.takeWhile_text, same]

/-! ## URIs that were read -/

namespace Parser

theorem toLower_ne_colon {c : Char} (allowed : isSchemeChar c) : c.toLower ≠ ':' := by
  intro lower
  unfold Char.toLower at lower
  split at lower
  · next upper =>
    have range : 65 ≤ c.val.toNat ∧ c.val.toNat ≤ 90 := by
      simpa [UInt32.le_iff_toNat_le] using upper
    have value : (c.val.toNat + 32) % 4294967296 = 58 := by
      simpa using congrArg Char.toNat lower
    omega
  · subst lower
    exact absurd allowed (by decide)

theorem not_mem_of_scheme? {text scheme rest : List Char} (h : scheme? text = some (scheme, rest)) :
    ':' ∉ scheme := by
  unfold scheme? at h
  split at h
  · cases h
  · split at h
    · cases h
    · split at h
      · cases h
        intro member
        obtain ⟨c, taken, lower⟩ := List.mem_map.mp member
        exact toLower_ne_colon (List.all_eq_true.mp List.all_takeWhile c taken) lower
      · cases h

/-- Whatever is put together has the scheme that it is given. -/
theorem scheme_of_file {scheme text : List Char} {uri : Uri} (h : file scheme text = .ok uri) :
    uri.scheme = String.ofList scheme := by
  unfold file at h
  dsimp only at h
  split at h
  · cases h
    rfl
  · split at h
    · cases h
      rfl
    · split at h
      all_goals
        obtain ⟨host, -, h⟩ := Except.bind_eq_ok_iff.mp h
        split at h <;> cases h <;> rfl

theorem scheme_of_web {scheme text : List Char} {uri : Uri} (h : web scheme text = .ok uri) :
    uri.scheme = String.ofList scheme := by
  obtain ⟨_, -, h⟩ := Except.bind_eq_ok_iff.mp h
  cases h
  rfl

theorem scheme_of_other {scheme text : List Char} {uri : Uri} (h : other scheme text = .ok uri) :
    uri.scheme = String.ofList scheme := by
  unfold other at h
  split at h
  · obtain ⟨_, -, h⟩ := Except.bind_eq_ok_iff.mp h
    cases h
    rfl
  · cases h
    rfl
  · cases h
    rfl

end Parser

/-- The URI stood in some text. -/
def WasRead (uri : Uri) : Prop :=
  ∃ s, parse s = .ok uri

/-- A URI that was read is proper. -/
theorem WasRead.isProper {uri : Uri} (read : uri.WasRead) : uri.IsProper := by
  obtain ⟨s, h⟩ := read
  unfold parse at h
  dsimp only at h
  split at h
  · cases h
  · next scheme rest split =>
    have named : uri.scheme = String.ofList scheme := by
      split at h
      · exact Parser.scheme_of_file h
      · exact Parser.scheme_of_web h
      · exact Parser.scheme_of_other h
    rw [IsProper, named, String.toList_ofList]
    exact Parser.not_mem_of_scheme? split

end RLanguageHost.Uri
