import Mathlib.Data.List.Basic
import Mathlib.Data.List.Flatten
import RLanguageHost.Proofs.Scope.Agreement
import RLanguageHost.Proofs.Text.Sequences

/-!
# Folders that are made from paths

A folder holds its directory as a URI, and the directory is read back out of the URI. The URI keeps
every name of the path, whatever bytes it has, so up to there nothing is lost. But the directory is
made from the text of the path that the URI means, without slashes and backslashes at the end: bytes
that are no text become U+FFFD, and backslashes that are the end of a name are taken off.

`FilePath.IsKept` says for which paths this does no harm, and `Folder.path?_ofPath?` that these are
all.
-/

namespace RLanguageHost

namespace FilePath

variable {p q : FilePath} {separator : UInt8} {part bs : Bytes}

/-! ## Names -/

/-- The names of a path. -/
def names (p : FilePath) : List Bytes :=
  p.components.filterMap Uri.nameOf?

/-- The path from the root on with the given names. -/
def ofNames (names : List Bytes) : FilePath :=
  ⟨if names.isEmpty then [slash] else names.flatMap (slash :: ·)⟩

def backslash : UInt8 := 0x5C

/-- Bytes between two slashes that count as a name. -/
structure IsName (name : Bytes) : Prop where
  counts : isFiller name = false
  plain : slash ∉ name

theorem splitOn_append (plain : separator ∉ part) (bs : Bytes) :
    ∃ first rest, splitOn separator bs = first :: rest ∧
      splitOn separator (part ++ bs) = (part ++ first) :: rest := by
  obtain ⟨first, rest, parts⟩ := List.exists_cons_of_ne_nil (splitOn_ne_nil separator bs)
  refine ⟨first, rest, parts, ?_⟩
  induction part with
  | nil => exact parts
  | cons b part ih =>
      obtain ⟨differs, plain⟩ := List.ne_and_not_mem_of_not_mem_cons plain
      rw [List.cons_append, splitOn, if_neg (Ne.symm differs), ih plain]
      rfl

theorem splitOn_of_not_mem (plain : separator ∉ part) : splitOn separator part = [part] := by
  obtain ⟨first, rest, nothing, whole⟩ := splitOn_append plain []
  cases nothing
  simpa using whole

theorem splitOn_append_cons (plain : separator ∉ part) (bs : Bytes) :
    splitOn separator (part ++ separator :: bs) = part :: splitOn separator bs := by
  obtain ⟨first, rest, parts, whole⟩ := splitOn_append plain (separator :: bs)
  rw [splitOn, if_pos rfl] at parts
  cases parts
  simpa using whole

theorem not_mem_of_mem_splitOn (member : part ∈ splitOn separator bs) : separator ∉ part := by
  induction bs generalizing part with
  | nil =>
      rw [splitOn, List.mem_singleton] at member
      rw [member]
      exact List.not_mem_nil
  | cons b bs ih =>
      rw [splitOn] at member
      split at member
      · rcases List.mem_cons.mp member with rfl | later
        · exact List.not_mem_nil
        · exact ih later
      · next differs =>
        obtain ⟨first, rest, parts⟩ := List.exists_cons_of_ne_nil (splitOn_ne_nil separator bs)
        rw [parts] at member ih
        rcases List.mem_cons.mp member with rfl | later
        · exact List.not_mem_cons_of_ne_of_not_mem (Ne.symm differs) (ih List.mem_cons_self)
        · exact ih (List.mem_cons_of_mem first later)

/-- The parts of a byte string with a separator before each are the string with one before it. -/
theorem flatMap_splitOn (separator : UInt8) (bs : Bytes) :
    (splitOn separator bs).flatMap (separator :: ·) = separator :: bs := by
  induction bs with
  | nil => rfl
  | cons b bs ih =>
      rw [splitOn]
      split
      · next here => rw [List.flatMap_cons, ih, here]; rfl
      · obtain ⟨first, rest, parts⟩ := List.exists_cons_of_ne_nil (splitOn_ne_nil separator bs)
        rw [parts, List.flatMap_cons, List.cons_append, List.cons.injEq] at ih
        rw [parts, List.flatMap_cons, List.cons_append, List.cons_append, ih.2]

theorem component?_bind_nameOf? (part : Bytes) :
    (component? part).bind Uri.nameOf? = if isFiller part then none else some part := by
  have counts : isFiller part = true ↔ part = [] ∨ part = [dot] := by simp [isFiller]
  by_cases filler : part = [] ∨ part = [dot]
  · rw [component?, if_pos filler, if_pos (counts.mpr filler)]
    rfl
  · rw [if_neg (mt counts.mp filler), component?, if_neg filler]
    split
    · next above =>
      rw [above]
      rfl
    · rfl

/-- The names of an absolute path are the parts between its slashes that count. -/
theorem names_cons_slash (bs : Bytes) :
    names ⟨slash :: bs⟩ = (splitOn slash bs).filter (!isFiller ·) := by
  have root : Uri.nameOf? .root = none := rfl
  rw [names, components_cons_slash, List.filterMap_cons_none root, List.filterMap_filterMap]
  generalize splitOn slash bs = parts
  induction parts with
  | nil => rfl
  | cons part parts ih =>
      rw [List.filterMap_cons, component?_bind_nameOf?, List.filter_cons, ih]
      cases isFiller part <;> rfl

theorem isName_of_mem_names (absolute : p.bytes.head? = some slash) (member : part ∈ p.names) :
    IsName part := by
  obtain ⟨bs, spelled⟩ := List.head?_eq_some_iff.mp absolute
  rw [show p = ⟨slash :: bs⟩ from congrArg FilePath.mk spelled, names_cons_slash] at member
  obtain ⟨between, counts⟩ := List.mem_filter.mp member
  exact ⟨by simpa using counts, not_mem_of_mem_splitOn between⟩

/-- The names of an absolute path are all that counts. -/
theorem components_of_absolute (absolute : p.bytes.head? = some slash) :
    p.components = .root :: p.names.filterMap component? := by
  obtain ⟨bs, spelled⟩ := List.head?_eq_some_iff.mp absolute
  obtain rfl : p = ⟨slash :: bs⟩ := congrArg FilePath.mk spelled
  rw [names_cons_slash, components_cons_slash]
  generalize splitOn slash bs = parts
  induction parts with
  | nil => rfl
  | cons part parts ih =>
      rw [List.cons.injEq] at ih
      cases filler : isFiller part with
      | false =>
          rw [List.filter_cons_of_pos (by simp [filler]), List.filterMap_cons, List.filterMap_cons,
            ← ih.2]
      | true =>
          have nothing : component? part = none := by
            rw [component?, if_pos (by simpa [isFiller] using filler)]
          rw [List.filter_cons_of_neg (by simp [filler]), List.filterMap_cons_none nothing, ih.2]

theorem same_iff (absolute : p.bytes.head? = some slash) (absolute' : q.bytes.head? = some slash) :
    p.Same q ↔ p.names = q.names := by
  constructor
  · intro same
    exact congrArg (List.filterMap Uri.nameOf?) same
  · intro same
    rw [Same, components_of_absolute absolute, components_of_absolute absolute', same]

/-- Between the slashes before names stand these names. -/
theorem splitOn_flatMap {first : Bytes} {rest : List Bytes} (plain : slash ∉ first)
    (plain' : ∀ name ∈ rest, slash ∉ name) :
    splitOn slash (first ++ rest.flatMap (slash :: ·)) = first :: rest := by
  induction rest generalizing first with
  | nil => simpa using splitOn_of_not_mem plain
  | cons second rest ih =>
      obtain ⟨plain'', plain'⟩ := List.forall_mem_cons.mp plain'
      rw [List.flatMap_cons, List.cons_append, splitOn_append_cons plain, ih plain'' plain']

theorem head?_ofNames (parts : List Bytes) : (ofNames parts).bytes.head? = some slash := by
  cases parts <;> rfl

theorem names_ofNames {parts : List Bytes} (proper : ∀ part ∈ parts, IsName part) :
    (ofNames parts).names = parts := by
  cases parts with
  | nil => rfl
  | cons first rest =>
      obtain ⟨name, others⟩ := List.forall_mem_cons.mp proper
      have spelled : ofNames (first :: rest) =
          ⟨slash :: (first ++ rest.flatMap (slash :: ·))⟩ := rfl
      rw [spelled, names_cons_slash, splitOn_flatMap name.plain fun part member =>
        (others part member).plain, List.filter_eq_self]
      intro part member
      rw [(proper part member).counts]
      rfl

/-- What is left of an absolute path without what does not count. -/
theorem ofNames_sublist (absolute : p.bytes.head? = some slash) :
    (ofNames p.names).bytes.Sublist p.bytes := by
  obtain ⟨bs, spelled⟩ := List.head?_eq_some_iff.mp absolute
  have counted : p.names.Sublist (splitOn slash bs) := by
    rw [show p = ⟨slash :: bs⟩ from congrArg FilePath.mk spelled, names_cons_slash]
    exact List.filter_sublist
  rw [spelled, ofNames]
  dsimp only
  split
  · exact List.singleton_sublist.mpr List.mem_cons_self
  · rw [← flatMap_splitOn]
    exact counted.flatMap _

end FilePath

namespace Uri

variable {b : UInt8} {bs : Bytes} {part : List Char}

/-! ## The path in a URI -/

theorem hexDigit?_upperHexDigit {n : Nat} (small : n < 16) : hexDigit? (upperHexDigit n) = some n :=
  (by decide : ∀ n < 16, hexDigit? (upperHexDigit n) = some n) n small

theorem decode_percent_append (b : UInt8) (rest : List Char) :
    decode (percent b ++ rest) = b :: decode rest := by
  have bound := b.toNat_lt
  have number : b.toNat / 16 * 16 + b.toNat % 16 = b.toNat := by omega
  rw [percent, List.cons_append, List.cons_append, List.cons_append, List.nil_append, decode,
    hexDigit?_upperHexDigit (by omega), hexDigit?_upperHexDigit (by omega)]
  dsimp only
  rw [number, UInt8.ofNat_toNat]

/-- A byte of a name is read back, since the percent sign is escaped itself. -/
theorem decode_encodeByte_append (b : UInt8) (rest : List Char) :
    decode (encodeByte inSegmentSet b ++ rest) = b :: decode rest := by
  unfold encodeByte
  split
  · next plain =>
    obtain ⟨ascii, open_⟩ := plain
    have single : String.utf8EncodeChar (Char.ofNat b.toNat) = [b] :=
      Utf8.encodeChar_one (Utf8.width_eq_one_iff.mpr (UInt8.lt_iff_toNat_lt.mp ascii))
    rw [List.singleton_append, decode]
    · rw [single]
      rfl
    · intro _ _ _ sign
      rw [sign] at open_
      exact absurd open_ (by decide)
  · exact decode_percent_append b rest

theorem decode_encodeBytes (bs : Bytes) : decode (encodeBytes inSegmentSet bs) = bs := by
  induction bs with
  | nil => rw [encodeBytes, List.flatMap_nil, decode]
  | cons b bs ih =>
      rw [encodeBytes, List.flatMap_cons, decode_encodeByte_append]
      exact congrArg (b :: ·) ih

theorem not_mem_encodeBytes (bs : Bytes) : '/' ∉ encodeBytes inSegmentSet bs := by
  intro member
  obtain ⟨b, -, member⟩ := List.mem_flatMap.mp member
  unfold encodeByte at member
  split at member
  · next plain =>
    rw [← List.mem_singleton.mp member] at plain
    exact absurd plain.2 (by decide)
  · exact not_mem_percent (by decide) member

theorem segments_append_cons (plain : '/' ∉ part) (rest : List Char) :
    segments (· == '/') (part ++ '/' :: rest) = part :: segments (· == '/') rest := by
  induction part with
  | nil => rfl
  | cons c part ih =>
      obtain ⟨differs, plain⟩ := List.ne_and_not_mem_of_not_mem_cons plain
      rw [List.cons_append, segments, if_neg (by simpa using Ne.symm differs), ih plain]

theorem segments_of_not_mem (plain : '/' ∉ part) : segments (· == '/') part = [part] := by
  induction part with
  | nil => rfl
  | cons c part ih =>
      obtain ⟨differs, plain⟩ := List.ne_and_not_mem_of_not_mem_cons plain
      rw [segments, if_neg (by simpa using Ne.symm differs), ih plain]

/-- The segments of a path that is made from names are these names. -/
theorem segments_names (first : Bytes) (rest : List Bytes) :
    segments (· == '/') (encodeBytes inSegmentSet first ++
        rest.flatMap fun name => '/' :: encodeBytes inSegmentSet name) =
      (first :: rest).map (encodeBytes inSegmentSet) := by
  induction rest generalizing first with
  | nil => simpa using segments_of_not_mem (not_mem_encodeBytes first)
  | cons second rest ih =>
      rw [List.flatMap_cons, List.cons_append, segments_append_cons (not_mem_encodeBytes first), ih]
      rfl

theorem pathBytes_pathOfNames (names : List Bytes) :
    pathBytes (pathOfNames names) =
      (FilePath.ofNames names).bytes ++
        if endsInDrive (FilePath.ofNames names).bytes then [FilePath.slash] else [] := by
  have spelled : (segments (· == '/') ((pathOfNames names).drop 1)).flatMap
      (fun s => FilePath.slash :: decode s) = (FilePath.ofNames names).bytes := by
    cases names with
    | nil => simp [pathOfNames, segments, decode, FilePath.ofNames]
    | cons first rest =>
        have path : (pathOfNames (first :: rest)).drop 1 = encodeBytes inSegmentSet first ++
            rest.flatMap fun name => '/' :: encodeBytes inSegmentSet name := rfl
        rw [path, segments_names, List.flatMap_map]
        simp only [decode_encodeBytes]
        rfl
  rw [pathBytes, spelled]
  split
  · rfl
  · exact (List.append_nil _).symm

/-- The URI of an absolute path means this path again, without what does not count. A path that ends
like a drive gets a slash at its end. -/
theorem exists_filePath?_ofFilePath? {p : FilePath} (absolute : p.isAbsolute) :
    ∃ uri, ofFilePath? p = some uri ∧ uri.scheme = fileScheme ∧
      ∃ n, uri.filePath? =
        some ⟨(FilePath.ofNames p.names).bytes ++ .replicate n FilePath.slash⟩ := by
  refine ⟨_, if_pos absolute, rfl,
    if endsInDrive (FilePath.ofNames p.names).bytes then 1 else 0, ?_⟩
  rw [filePath?, if_pos rfl, if_pos rfl, String.toList_ofList]
  refine congrArg (fun bytes => some (FilePath.mk bytes)) ((pathBytes_pathOfNames p.names).trans ?_)
  split <;> rfl

end Uri

namespace Utf8

variable {bs : Bytes} {text : List Char}

/-- Bytes that are text. -/
def IsText (bs : Bytes) : Prop :=
  ∃ text, bs = encode text

theorem IsText.append {bs' : Bytes} (h : IsText bs) (h' : IsText bs') : IsText (bs ++ bs') := by
  obtain ⟨text, rfl⟩ := h
  obtain ⟨text', rfl⟩ := h'
  exact ⟨text ++ text', (encode_append text text').symm⟩

/-- A slash is a byte of no other character, so text stays text between slashes. -/
theorem isText_of_mem_splitOn {part : Bytes}
    (member : part ∈ FilePath.splitOn FilePath.slash (encode text)) : IsText part := by
  induction text generalizing part with
  | nil => exact ⟨[], List.mem_singleton.mp member⟩
  | cons c text ih =>
      rw [encode_cons] at member
      by_cases slash : c = '/'
      · subst slash
        rw [show String.utf8EncodeChar '/' = [FilePath.slash] from rfl, List.singleton_append,
          FilePath.splitOn, if_pos rfl] at member
        rcases List.mem_cons.mp member with rfl | later
        · exact ⟨[], rfl⟩
        · exact ih later
      · have plain : FilePath.slash ∉ String.utf8EncodeChar c := fun inside =>
          slash (eq_of_mem_encodeChar rfl inside)
        obtain ⟨first, rest, parts, whole⟩ := FilePath.splitOn_append plain (encode text)
        rw [parts] at ih
        rw [whole] at member
        rcases List.mem_cons.mp member with rfl | later
        · exact IsText.append ⟨[c], (List.append_nil _).symm⟩ (ih List.mem_cons_self)
        · exact ih (List.mem_cons_of_mem first later)

theorem isText_ofNames {names : List Bytes} (texts : ∀ name ∈ names, IsText name) :
    IsText (FilePath.ofNames names).bytes := by
  have slash : IsText [FilePath.slash] := ⟨['/'], rfl⟩
  have spelled : IsText (names.flatMap (FilePath.slash :: ·)) := by
    induction names with
    | nil => exact ⟨[], rfl⟩
    | cons name names ih =>
        obtain ⟨first, rest⟩ := List.forall_mem_cons.mp texts
        exact (slash.append first).append (ih rest)
  rw [FilePath.ofNames]
  dsimp only
  split
  · exact slash
  · exact spelled

theorem exists_separators (separators : ∀ b ∈ bs, b = FilePath.slash ∨ b = FilePath.backslash) :
    ∃ text, bs = encode text ∧ ∀ c ∈ text, Folder.isSeparator c = true := by
  induction bs with
  | nil => exact ⟨[], rfl, fun _ member => by cases member⟩
  | cons b bs ih =>
      obtain ⟨first, rest⟩ := List.forall_mem_cons.mp separators
      obtain ⟨text, rfl, all⟩ := ih rest
      rcases first with rfl | rfl
      · exact ⟨'/' :: text, rfl, List.forall_mem_cons.mpr ⟨rfl, all⟩⟩
      · exact ⟨'\\' :: text, rfl, List.forall_mem_cons.mpr ⟨rfl, all⟩⟩

/-- Whether the last character is a slash or backslash can be read off the last byte. -/
theorem isSeparator_last_iff {front : Bytes} {b : UInt8} {c : Char}
    (spelled : encode (text ++ [c]) = front ++ [b]) :
    Folder.isSeparator c = true ↔ b = FilePath.slash ∨ b = FilePath.backslash := by
  rw [encode_append, encode_cons, encode_nil, List.append_nil] at spelled
  have last : (String.utf8EncodeChar c).getLast? = some b := by
    have ends := congrArg List.getLast? spelled
    rw [List.getLast?_append, List.getLast?_concat] at ends
    cases found : (String.utf8EncodeChar c).getLast? with
    | none => exact absurd (List.getLast?_eq_none_iff.mp found) String.utf8EncodeChar_ne_nil
    | some b' => rwa [found] at ends
  have separator : Folder.isSeparator c = true ↔ c = '/' ∨ c = '\\' := by
    simp [Folder.isSeparator]
  rw [separator]
  have member := List.mem_of_getLast? last
  constructor
  · rintro (rfl | rfl)
    · exact .inl (List.mem_singleton.mp member)
    · exact .inr (List.mem_singleton.mp member)
  · rintro (rfl | rfl)
    · exact .inl (eq_of_mem_encodeChar rfl member)
    · exact .inr (eq_of_mem_encodeChar rfl member)

end Utf8

namespace FilePath

variable {p : FilePath}

/-- A path that comes back from the folder that is made from it: its names are text, and the last
one does not end in a backslash. Backslashes alone are not taken off either. -/
inductive IsKept (p : FilePath) : Prop
  | text (isText : ∀ name ∈ p.names, Utf8.IsText name)
      (plain : ∀ name ∈ p.names.getLast?, name.getLast? ≠ some backslash)
  | backslashes (only : ∀ name ∈ p.names, ∀ b ∈ name, b = backslash)

theorem mem_ofNames {names : List Bytes} {name : Bytes} {b : UInt8} (listed : name ∈ names)
    (inside : b ∈ name) : b ∈ (ofNames names).bytes := by
  rw [ofNames]
  dsimp only
  rw [if_neg (by simpa using List.ne_nil_of_mem listed)]
  exact List.mem_flatMap.mpr ⟨name, listed, List.mem_cons_of_mem slash inside⟩

/-- The path of names ends in a byte of the last one, which is no slash. -/
theorem exists_last_byte {names : List Bytes} (proper : ∀ name ∈ names, IsName name)
    (some : names ≠ []) :
    ∃ name front b, names.getLast? = .some name ∧ name.getLast? = .some b ∧
      (ofNames names).bytes = front ++ [b] ∧ b ≠ slash := by
  obtain ⟨before, name, rfl⟩ := (List.eq_nil_or_concat' names).resolve_left some
  have name' := proper name (List.mem_append_right _ (List.mem_singleton_self name))
  have counts : name ≠ [] := by
    rintro rfl
    exact Bool.noConfusion name'.counts
  obtain ⟨front, b, rfl⟩ := (List.eq_nil_or_concat' name).resolve_left counts
  refine ⟨front ++ [b], before.flatMap (slash :: ·) ++ slash :: front, b, List.getLast?_concat,
    List.getLast?_concat, ?_, ?_⟩
  · rw [ofNames]
    simp
  · rintro rfl
    exact name'.plain (List.mem_append_right _ (List.mem_singleton_self slash))

/-- Slashes after its names leave an absolute path the same. -/
theorem same_ofNames_append (absolute : p.bytes.head? = some slash) (n : Nat) :
    Same ⟨(ofNames p.names).bytes ++ .replicate n slash⟩ p := by
  obtain ⟨rest, spelled⟩ := List.head?_eq_some_iff.mp (head?_ofNames p.names)
  have dropped : components ⟨(ofNames p.names).bytes ++ .replicate n slash⟩ =
      (ofNames p.names).components := by
    rw [show ofNames p.names = ⟨slash :: rest⟩ from congrArg FilePath.mk spelled]
    exact components_append_slashes rest n
  have named : (ofNames p.names).Same p := by
    rw [same_iff (head?_ofNames p.names) absolute, names_ofNames]
    exact fun name member => isName_of_mem_names absolute member
  exact dropped.trans named

end FilePath

namespace Folder

variable {f : Folder} {p q directory : FilePath}

/-! ## The directory of a folder -/

theorem path?_eq (here : f.uri.filePath? = some q) :
    f.path? =
      let trimmed := Text.dropEndWhile isSeparator q.text.toList
      some (if trimmed.isEmpty then q else ⟨Utf8.encode trimmed⟩) := by
  rw [path?, here]
  rfl

variable {n : Nat}

/-- If all of the path is separators, the names hold no byte but backslashes. -/
theorem only_of_separators (absolute : p.bytes.head? = some FilePath.slash) {tail : List Char}
    (separators : ∀ c ∈ tail, isSeparator c = true)
    (text : Utf8.lossy ((FilePath.ofNames p.names).bytes ++ .replicate n FilePath.slash) = tail) :
    ∀ name ∈ p.names, ∀ b ∈ name, b = FilePath.backslash := by
  intro name listed b inside
  have whole : Utf8.replacement ∉ tail := fun member =>
    absurd (separators _ member) (by decide)
  have bytes := Utf8.encode_lossy (text ▸ whole)
  have spelled : b ∈ Utf8.encode tail := by
    rw [← text, bytes]
    exact List.mem_append_left _ (FilePath.mem_ofNames listed inside)
  obtain ⟨c, member, encoded⟩ := List.mem_flatMap.mp spelled
  have separator : c = '/' ∨ c = '\\' := by
    simpa [isSeparator] using separators c member
  rcases separator with rfl | rfl
  · rw [List.mem_singleton.mp encoded] at inside
    exact absurd inside (FilePath.isName_of_mem_names absolute listed).plain
  · exact List.mem_singleton.mp encoded

/-- What is left of the path without separators at its end starts with its slash. -/
theorem head?_of_split {tail rest : List Char} {first : Char}
    (split : Utf8.lossy ((FilePath.ofNames p.names).bytes ++ .replicate n FilePath.slash) =
      first :: rest ++ tail) : first = '/' := by
  obtain ⟨bs, spelled⟩ := List.head?_eq_some_iff.mp (FilePath.head?_ofNames p.names)
  have starts := Utf8.lossy_encode_append ['/'] (bs ++ .replicate n FilePath.slash)
  rw [show Utf8.encode ['/'] = [FilePath.slash] from rfl, List.singleton_append] at starts
  rw [spelled, List.cons_append, starts, List.singleton_append, List.cons_append,
    List.cons.injEq] at split
  exact split.1.symm

/-- Slashes after a text are all that is taken off, if what is left is as long and ends in something
else. -/
theorem eq_of_slashes {text before tail : List Char} {c : Char}
    (long : (Utf8.encode text).length ≤ (Utf8.encode (before ++ [c])).length)
    (split : text ++ .replicate n '/' = before ++ [c] ++ tail) (stays : isSeparator c = false) :
    text = before ++ [c] := by
  rcases List.append_eq_append_iff.mp split with ⟨slashes, whole, added⟩ | ⟨lost, whole, -⟩
  · rcases List.eq_nil_or_concat' slashes with rfl | ⟨others, slash, rfl⟩
    · exact (whole.trans (List.append_nil text)).symm
    · rw [← List.append_assoc] at whole
      have last : c = slash := by simpa using (List.append_inj' whole rfl).2
      have member : slash ∈ List.replicate n '/' := by rw [added]; simp
      rw [last, List.eq_of_mem_replicate member] at stays
      exact Bool.noConfusion stays
  · rw [whole, Utf8.encode_append, List.length_append] at long
    have nothing : Utf8.encode lost = [] := List.eq_nil_of_length_eq_zero (by omega)
    rw [whole, Utf8.encode_eq_nil_iff.mp nothing, List.append_nil]

/-- If something is left and it is the same path, the names are text and nothing was taken off
but slashes. -/
theorem isText_of_same (absolute : p.bytes.head? = some FilePath.slash) {tail rest : List Char}
    {first : Char}
    (same : FilePath.Same ⟨Utf8.encode (first :: rest)⟩ p)
    (split : Utf8.lossy ((FilePath.ofNames p.names).bytes ++ .replicate n FilePath.slash) =
      first :: rest ++ tail)
    (kept : Text.dropEndWhile isSeparator
      (Utf8.lossy ((FilePath.ofNames p.names).bytes ++ .replicate n FilePath.slash)) =
      first :: rest) :
    (∀ name ∈ p.names, Utf8.IsText name) ∧
      ∀ name ∈ p.names.getLast?, name.getLast? ≠ some FilePath.backslash := by
  obtain rfl := head?_of_split split
  have spelled : Utf8.encode ('/' :: rest) = FilePath.slash :: Utf8.encode rest := rfl
  rw [spelled, FilePath.same_iff rfl absolute] at same
  have isText : ∀ name ∈ p.names, Utf8.IsText name := by
    intro name member
    rw [← same, FilePath.names_cons_slash] at member
    exact Utf8.isText_of_mem_splitOn (List.mem_of_mem_filter member)
  refine ⟨isText, fun name last ends => ?_⟩
  have shorter := FilePath.ofNames_sublist (p := ⟨FilePath.slash :: Utf8.encode rest⟩) rfl
  rw [same, ← spelled] at shorter
  obtain ⟨text, encoded⟩ := Utf8.isText_ofNames isText
  rw [encoded, ← Utf8.encode_replicate_slash, ← Utf8.encode_append, Utf8.lossy_encode] at split
  obtain ⟨before, c, ended⟩ := (List.eq_nil_or_concat' ('/' :: rest)).resolve_left
    (List.cons_ne_nil _ _)
  rw [ended] at kept split shorter
  have stays := Text.last_dropEndWhile kept
  have whole : text = before ++ [c] :=
    eq_of_slashes (encoded ▸ shorter.length_le) split stays
  obtain ⟨name', front, b, last', ends', bytes, -⟩ := FilePath.exists_last_byte
    (fun name member => FilePath.isName_of_mem_names absolute member)
    (List.ne_nil_of_mem (List.mem_of_getLast? last))
  obtain rfl := Option.some.inj (last.symm.trans last')
  obtain rfl := Option.some.inj (ends.symm.trans ends')
  have separator := (Utf8.isSeparator_last_iff (whole ▸ encoded.symm.trans bytes)).mpr (.inr rfl)
  rw [stays] at separator
  exact Bool.noConfusion separator

section

variable (absolute : p.bytes.head? = some FilePath.slash)
variable (here : f.uri.filePath? =
  some ⟨(FilePath.ofNames p.names).bytes ++ .replicate n FilePath.slash⟩)
variable (place : f.path? = some directory)
include absolute here place

/-- Nothing is left without the separators, so nothing is taken off. -/
theorem same_of_backslashes (only : ∀ name ∈ p.names, ∀ b ∈ name, b = FilePath.backslash) :
    directory.Same p := by
  have separators : ∀ b ∈ (FilePath.ofNames p.names).bytes ++ .replicate n FilePath.slash,
      b = FilePath.slash ∨ b = FilePath.backslash := by
    intro b member
    rcases List.mem_append.mp member with inNames | added
    · rw [FilePath.ofNames] at inNames
      dsimp only at inNames
      split at inNames
      · exact .inl (List.mem_singleton.mp inNames)
      · obtain ⟨name, listed, inside⟩ := List.mem_flatMap.mp inNames
        exact (List.mem_cons.mp inside).imp id (only name listed b)
    · exact .inl (List.eq_of_mem_replicate added)
  obtain ⟨text, spelled, all⟩ := Utf8.exists_separators separators
  have nothing : Text.dropEndWhile isSeparator ([] ++ text) = [] := Text.dropEndWhile_append all
  rw [List.nil_append] at nothing
  rw [path?_eq here] at place
  dsimp only at place
  rw [FilePath.text, spelled, Utf8.lossy_encode, String.toList_ofList, nothing] at place
  obtain rfl := Option.some.inj place
  rw [if_pos (by rfl), ← spelled]
  exact FilePath.same_ofNames_append absolute n

theorem same_of_text (isText : ∀ name ∈ p.names, Utf8.IsText name)
    (plain : ∀ name ∈ p.names.getLast?, name.getLast? ≠ some FilePath.backslash) :
    directory.Same p := by
  by_cases root : p.names = []
  · refine same_of_backslashes absolute here place fun name member => ?_
    rw [root] at member
    cases member
  · have proper : ∀ name ∈ p.names, FilePath.IsName name := fun name member =>
      FilePath.isName_of_mem_names absolute member
    obtain ⟨name, front, b, last, ends, spelled, noSlash⟩ := FilePath.exists_last_byte proper root
    obtain ⟨text, encoded⟩ := Utf8.isText_ofNames isText
    have some : text ≠ [] := by
      rintro rfl
      rw [spelled] at encoded
      exact List.append_ne_nil_of_right_ne_nil front (List.cons_ne_nil b []) encoded
    obtain ⟨before, c, rfl⟩ := (List.eq_nil_or_concat' text).resolve_left some
    have stays : isSeparator c = false := by
      rw [← Bool.not_eq_true, Utf8.isSeparator_last_iff (encoded.symm.trans spelled)]
      rintro (rfl | rfl)
      · exact noSlash rfl
      · exact plain name last ends
    have slashes : ∀ c ∈ List.replicate n '/', isSeparator c = true := fun c member => by
      rw [List.eq_of_mem_replicate member]
      rfl
    rw [path?_eq here] at place
    dsimp only at place
    rw [FilePath.text, encoded, ← Utf8.encode_replicate_slash, ← Utf8.encode_append,
      Utf8.lossy_encode, String.toList_ofList, Text.dropEndWhile_append slashes,
      Text.dropEndWhile_concat stays, ← encoded] at place
    obtain rfl := Option.some.inj place
    rw [if_neg (by simp)]
    have whole := FilePath.same_ofNames_append absolute 0
    rwa [List.replicate_zero, List.append_nil] at whole

theorem isKept_of_same (same : directory.Same p) : p.IsKept := by
  rw [path?_eq here] at place
  dsimp only at place
  rw [FilePath.text, String.toList_ofList] at place
  obtain ⟨tail, split, separators⟩ := Text.exists_eq_append_dropEndWhile isSeparator
    (Utf8.lossy ((FilePath.ofNames p.names).bytes ++ .replicate n FilePath.slash))
  generalize kept : Text.dropEndWhile isSeparator _ = trimmed at place split
  cases trimmed with
  | nil => exact .backslashes (only_of_separators absolute separators split)
  | cons first rest =>
      obtain rfl := Option.some.inj place
      obtain ⟨isText, plain⟩ := isText_of_same absolute same split kept
      exact .text isText plain

end

/-! ## The folder of a path -/

/-- Servers of the folder run in the directory, and the files of the folder are those in it. -/
structure IsPlacedAt (f : Folder) (directory : FilePath) : Prop where
  runs {home : FilePath} {d : Document} {scope : Scope} :
    resolve home d (some f) = some scope → scope.kind = .workspaceFolder →
      scope.workingDirectory = directory
  around {w : Workspace} {uri : Uri} : w.folders = [f] →
    (w.folderFor? uri = some f ↔
      uri.scheme = Uri.fileScheme ∧ ∃ q, uri.filePath? = some q ∧ q.within directory)

theorem isPlacedAt_of_path? (place : f.path? = some directory) : f.IsPlacedAt directory where
  runs := by
    intro home d scope found kind
    have placed := placed_of_resolve found
    obtain ⟨key, _, selector, workingDirectory, folder⟩ := scope
    cases kind
    cases placed with
    | inFolder inside place' =>
        cases inside
        exact Option.some.inj (place'.symm.trans place)
  around := by
    intro w uri only
    have innermost (q : FilePath) :
        Workspace.IsInnermost w.folders q f ↔ q.within directory := by
      rw [FilePath.within, List.isPrefixOf_iff_prefix, only]
      constructor
      · rintro ⟨⟨_, place', above⟩, -⟩
        cases place'.symm.trans place
        exact above
      · intro above
        refine ⟨⟨directory, place, above⟩, [], [], rfl, ?_, ?_⟩ <;>
          exact List.forall_mem_nil _
    simp only [Workspace.folderFor?_eq_some_iff, innermost]

/-- A folder that is made from an absolute path has the path for its directory if and only if the
path is kept, and then all files below the path belong to the folder. -/
theorem path?_ofPath? (absolute : p.isAbsolute) :
    ∃ f directory, ofPath? p = some f ∧ f.path? = some directory ∧ f.IsPlacedAt directory ∧
      (directory.Same p ↔ p.IsKept) ∧
      (p.IsKept → ∀ w : Workspace, w.folders = [f] → ∀ q : FilePath, q.isAbsolute → q.within p →
        ∃ uri, Uri.ofFilePath? q = some uri ∧ w.folderFor? uri = some f) := by
  obtain ⟨uri, made, -, n, here⟩ := Uri.exists_filePath?_ofFilePath? absolute
  have rooted : p.bytes.head? = some FilePath.slash := of_decide_eq_true absolute
  obtain ⟨f, rfl, folder⟩ : ∃ f : Folder, f.uri = uri ∧ ofPath? p = some f := by
    rw [ofPath?, made, Option.map_some]
    exact ⟨_, rfl, rfl⟩
  obtain ⟨directory, place⟩ : ∃ directory, f.path? = some directory := ⟨_, path?_eq here⟩
  have placed := isPlacedAt_of_path? place
  have same_iff : directory.Same p ↔ p.IsKept := by
    constructor
    · exact isKept_of_same rooted here place
    · rintro (⟨isText, plain⟩ | only)
      · exact same_of_text rooted here place isText plain
      · exact same_of_backslashes rooted here place only
  refine ⟨f, directory, folder, place, placed, same_iff, fun kept w only q absolute' below => ?_⟩
  obtain ⟨uri, made', file, n', there⟩ := Uri.exists_filePath?_ofFilePath? absolute'
  refine ⟨uri, made', (placed.around only).mpr ⟨file, _, there, ?_⟩⟩
  have spelled := FilePath.same_ofNames_append (of_decide_eq_true absolute') n'
  rwa [FilePath.within, same_iff.mpr kept, spelled]

theorem path?_ofPath?_percent :
    (FilePath.ofString "/home/my proj%41/../C:/").isAbsolute ∧ ∃ f directory,
      ofPath? (.ofString "/home/my proj%41/../C:/") = some f ∧ f.path? = some directory ∧
      f.IsPlacedAt directory ∧ directory.Same (.ofString "/home/my proj%41/../C:/") ∧
      ∀ w : Workspace, w.folders = [f] → ∀ q : FilePath, q.isAbsolute →
        q.within (.ofString "/home/my proj%41/../C:/") →
        ∃ uri, Uri.ofFilePath? q = some uri ∧ w.folderFor? uri = some f := by
  have absolute : (FilePath.ofString "/home/my proj%41/../C:/").isAbsolute := by decide +kernel
  have names : (FilePath.ofString "/home/my proj%41/../C:/").names =
      ["home".toList, "my proj%41".toList, "..".toList, "C:".toList].map Utf8.encode := by
    decide +kernel
  have kept : (FilePath.ofString "/home/my proj%41/../C:/").IsKept := by
    refine .text ?_ ?_
    · intro name member
      rw [names] at member
      obtain ⟨text, -, spelled⟩ := List.mem_map.mp member
      exact ⟨text, spelled.symm⟩
    · rw [names]
      decide +kernel
  obtain ⟨f, directory, folder, place, placed, same, below⟩ := path?_ofPath? absolute
  exact ⟨absolute, f, directory, folder, place, placed, same.mpr kept, below kept⟩

/-- A backslash at the end of a name is lost, and with it the files below the path. So are bytes
that are no text. -/
theorem paths_are_lost :
    ((ofPath? (.ofString "/home/u/proj\\")).bind path? = some (.ofString "/home/u/proj") ∧
      ¬ (FilePath.ofString "/home/u/proj").Same (.ofString "/home/u/proj\\") ∧
      (FilePath.ofString "/home/u/proj\\/a.r").within (.ofString "/home/u/proj\\") ∧
      (Uri.ofFilePath? (.ofString "/home/u/proj\\/a.r")).map
        (Workspace.ofFolders (ofPath? (.ofString "/home/u/proj\\")).toList).folderFor? =
          some none) ∧
    ((ofPath? ⟨bytesOf "/home/" ++ [0xFF]⟩).bind path? = some (.ofString "/home/\uFFFD") ∧
      ¬ (FilePath.ofString "/home/\uFFFD").Same ⟨bytesOf "/home/" ++ [0xFF]⟩) := by
  decide +kernel

end Folder

end RLanguageHost
