import RLanguageHost.Host.Bridge
import RLanguageHost.Proofs.Uri.Scheme

/-!
# Events that were read

The URI of a document in an event that was read was read itself, so it is proper: its text tells its
scheme. This holds however the event is written, with its members in any order or as an array.
-/

namespace RLanguageHost

namespace HostEvent

/-- The URI of the document that was opened or closed was read. -/
def WasRead : HostEvent → Prop
  | .opened d => d.uri.WasRead
  | .closed uri => uri.WasRead
  | .foldersChanged .. | .deactivate => True

/-- The URI of the document that was opened or closed is proper. -/
def IsProper : HostEvent → Prop
  | .opened d => d.uri.IsProper
  | .closed uri => uri.IsProper
  | .foldersChanged .. | .deactivate => True

theorem wasRead_of_asUri {value : Json} {uri : Uri} (h : asUri value = .ok uri) :
    uri.WasRead := by
  unfold asUri at h
  split at h
  · split at h
    · next parsed =>
      cases h
      exact ⟨_, parsed⟩
    · cases h
  · cases h

theorem wasRead_of_readOpenedMembers {members : List (String × Json)} {parts read : OpenedParts}
    (before : ∀ uri ∈ parts.uri, uri.WasRead) (h : readOpenedMembers parts members = .ok read) :
    ∀ uri ∈ read.uri, uri.WasRead := by
  induction members generalizing parts with
  | nil =>
      cases h
      exact before
  | cons member rest ih =>
      obtain ⟨key, value⟩ := member
      rw [readOpenedMembers] at h
      split at h
      · split at h
        · cases h
        · obtain ⟨uri, given, h⟩ := Except.bind_eq_ok_iff.mp h
          refine ih ?_ h
          rintro _ ⟨⟩
          exact wasRead_of_asUri given
      · split at h
        · split at h
          · cases h
          · obtain ⟨language, -, h⟩ := Except.bind_eq_ok_iff.mp h
            refine ih ?_ h
            exact before
        · exact ih before h

theorem wasRead_of_readClosedMembers {members : List (String × Json)} {found read : Option Uri}
    (before : ∀ uri ∈ found, uri.WasRead) (h : readClosedMembers found members = .ok read) :
    ∀ uri ∈ read, uri.WasRead := by
  induction members generalizing found with
  | nil =>
      cases h
      exact before
  | cons member rest ih =>
      obtain ⟨key, value⟩ := member
      rw [readClosedMembers] at h
      split at h
      · split at h
        · cases h
        · obtain ⟨uri, given, h⟩ := Except.bind_eq_ok_iff.mp h
          refine ih ?_ h
          rintro _ ⟨⟩
          exact wasRead_of_asUri given
      · exact ih before h

theorem wasRead_of_asOpened {content : Content} {e : HostEvent} (h : asOpened content = .ok e) :
    e.WasRead := by
  unfold asOpened at h
  dsimp only at h
  split at h
  · obtain ⟨parts, read, h⟩ := Except.bind_eq_ok_iff.mp h
    split at h
    · cases h
    · cases h
    · next uri language given _ =>
      cases h
      exact wasRead_of_readOpenedMembers (by simp) read uri given
  · cases h
  · obtain ⟨_, -, h⟩ := Except.bind_eq_ok_iff.mp h
    cases h
  · obtain ⟨uri, given, h⟩ := Except.bind_eq_ok_iff.mp h
    obtain ⟨language, -, h⟩ := Except.bind_eq_ok_iff.mp h
    split at h
    · cases h
      exact wasRead_of_asUri given
    · cases h

theorem wasRead_of_asClosed {content : Content} {e : HostEvent} (h : asClosed content = .ok e) :
    e.WasRead := by
  unfold asClosed at h
  split at h
  · obtain ⟨found, read, h⟩ := Except.bind_eq_ok_iff.mp h
    split at h
    · cases h
    · next uri =>
      cases h
      exact wasRead_of_readClosedMembers (by simp) read uri rfl
  · cases h
  · obtain ⟨uri, given, h⟩ := Except.bind_eq_ok_iff.mp h
    split at h
    · cases h
      exact wasRead_of_asUri given
    · cases h

theorem wasRead_of_asFoldersChanged {content : Content} {e : HostEvent}
    (h : asFoldersChanged content = .ok e) : e.WasRead := by
  unfold asFoldersChanged at h
  split at h
  · obtain ⟨change, -, h⟩ := Except.bind_eq_ok_iff.mp h
    cases h
    trivial
  · cases h
    trivial
  · obtain ⟨added, -, h⟩ := Except.bind_eq_ok_iff.mp h
    cases h
    trivial
  · obtain ⟨added, -, h⟩ := Except.bind_eq_ok_iff.mp h
    obtain ⟨removed, -, h⟩ := Except.bind_eq_ok_iff.mp h
    split at h
    · cases h
      trivial
    · cases h

theorem wasRead_of_ofContent {kind : Kind} {content : Content} {e : HostEvent}
    (h : ofContent kind content = .ok e) : e.WasRead := by
  cases kind with
  | opened => exact wasRead_of_asOpened h
  | closed => exact wasRead_of_asClosed h
  | foldersChanged => exact wasRead_of_asFoldersChanged h
  | deactivate =>
      unfold ofContent asDeactivate at h
      dsimp only at h
      split at h <;> cases h <;> trivial

theorem wasRead_of_read {text rest : List Char} {e : HostEvent} (h : read text = .ok (e, rest)) :
    e.WasRead := by
  unfold read at h
  dsimp only at h
  split at h
  · obtain ⟨⟨kind, members, rest⟩, -, h⟩ := Except.bind_eq_ok_iff.mp h
    obtain ⟨event, shaped, h⟩ := Except.bind_eq_ok_iff.mp h
    cases h
    exact wasRead_of_ofContent (Except.mapError_eq_ok_iff.mp shaped)
  · obtain ⟨⟨kind, items, rest⟩, -, h⟩ := Except.bind_eq_ok_iff.mp h
    obtain ⟨event, shaped, h⟩ := Except.bind_eq_ok_iff.mp h
    cases h
    exact wasRead_of_ofContent (Except.mapError_eq_ok_iff.mp shaped)
  · obtain ⟨_, -, h⟩ := Except.bind_eq_ok_iff.mp h
    cases h

theorem wasRead_of_ofText {text : List Char} {e : HostEvent} (h : ofText text = .ok e) :
    e.WasRead := by
  obtain ⟨⟨event, rest⟩, taken, h⟩ := Except.bind_eq_ok_iff.mp h
  dsimp only at h
  split at h
  · cases h
    exact wasRead_of_read taken
  · cases h

theorem WasRead.isProper {e : HostEvent} (read : e.WasRead) : e.IsProper := by
  cases e with
  | opened | closed => exact Uri.WasRead.isProper read
  | foldersChanged | deactivate => trivial

end HostEvent

namespace Host

theorem wasRead_of_readLine {line : Bytes} {e : HostEvent} (h : readLine line = .event e) :
    e.WasRead := by
  unfold readLine at h
  split at h
  · cases h
  · split at h
    · cases h
    · split at h
      · next read =>
        cases h
        exact HostEvent.wasRead_of_ofText read
      · cases h

theorem isProper_of_readLine {line : Bytes} {e : HostEvent} (h : readLine line = .event e) :
    e.IsProper :=
  (wasRead_of_readLine h).isProper

end Host

end RLanguageHost
