import RLanguageHost.Proofs.Uri.Scheme
import RLanguageHost.Uri.Location

/-!
# Paths and texts

The path of a notebook cell or a file can be read off the text of its URI. Authorities and paths
that were read hold none of the characters that come after them: what they could not hold is
escaped. So the path starts at the first slash after the authority, if there is one, and ends at the
first mark.

Two texts can mean one path, since a path that starts with two slashes is written with a dot before
it. The dot makes no difference to the file that is meant.
-/

namespace RLanguageHost.Uri

/-- The characters at which the parts of a URI begin. -/
def delimiters : List Char := ['/', '?', '#']

theorem forall_mem_delimiters {p : Char → Prop} :
    (∀ c ∈ delimiters, p c) ↔ p '/' ∧ p '?' ∧ p '#' := by
  simp [delimiters]

/-! ## Characters that parts cannot hold -/

section

variable {c : Char} {text : List Char}

theorem not_mem_percent {b : UInt8} (delimits : c ∈ delimiters) : c ∉ percent b := by
  have digits : ∀ n < 16, ∀ c ∈ delimiters, c ≠ upperHexDigit n ∧ c ≠ '%' := by
    simp only [forall_mem_delimiters]
    decide
  have small := b.toNat_lt
  have high := digits (b.toNat / 16) (by omega) c delimits
  have low := digits (b.toNat % 16) (by omega) c delimits
  simp [percent, high, low]

/-- A delimiter stands in an escaped text only if it stood there before and is not escaped. -/
theorem mem_of_mem_encodeText {inSet : Char → Bool} (delimits : c ∈ delimiters)
    (h : c ∈ encodeText inSet text) : c ∈ text ∧ ¬ inSet c := by
  obtain ⟨d, member, encoded⟩ := List.mem_flatMap.mp h
  unfold encodeChar at encoded
  split at encoded
  · next plain =>
    obtain rfl := List.mem_singleton.mp encoded
    exact ⟨member, by simpa using plain.2⟩
  · obtain ⟨b, -, escaped⟩ := List.mem_flatMap.mp encoded
    exact absurd escaped (not_mem_percent delimits)

theorem not_mem_toDigits {base n : Nat} (delimits : c ∈ delimiters) : c ∉ Nat.toDigits base n := by
  have digit : ∀ d : Nat, d.digitChar ∉ delimiters := by
    intro d
    rcases Nat.lt_or_ge d 16 with small | large
    · exact (by decide : ∀ d < 16, Nat.digitChar d ∉ delimiters) d small
    · have other : d.digitChar = '*' := by
        unfold Nat.digitChar
        repeat rw [if_neg (by omega)]
      rw [other]
      decide
  suffices ∀ fuel n cs, c ∈ Nat.toDigitsCore base fuel n cs → c ∈ cs from
    fun member => List.not_mem_nil (this _ _ _ member)
  intro fuel
  induction fuel with
  | zero => exact fun _ _ => id
  | succ fuel ih =>
      intro n cs member
      rw [Nat.toDigitsCore] at member
      have inside : c ∈ (n % base).digitChar :: cs := by
        split at member
        · exact member
        · exact ih _ _ member
      refine (List.mem_cons.mp inside).resolve_left ?_
      rintro rfl
      exact digit _ delimits

theorem not_mem_intersperse {separator : List Char} {parts : List (List Char)}
    (apart : c ∉ separator) (plain : ∀ part ∈ parts, c ∉ part) :
    c ∉ List.intercalate separator parts := by
  induction parts with
  | nil => exact List.not_mem_nil
  | cons first rest ih =>
      have later := ih fun part member => plain part (List.mem_cons_of_mem _ member)
      have here := plain first List.mem_cons_self
      cases rest with
      | nil => simpa [List.intercalate] using here
      | cons second more => simpa [List.intercalate, here, apart] using later

theorem not_mem_piecesText {pieces : List Nat} (delimits : c ∈ delimiters) :
    c ∉ Host.piecesText pieces := by
  refine not_mem_intersperse ?_ ?_
  · rintro colon
    obtain rfl := List.mem_singleton.mp colon
    exact absurd delimits (by decide)
  · intro part member
    obtain ⟨n, -, rfl⟩ := List.mem_map.mp member
    exact not_mem_toDigits delimits

end

/-! ## Authorities -/

section

variable {c : Char} {text host : List Char}

theorem not_mem_bracketed (delimits : c ∈ delimiters) (h : Host.bracketed text = .ok host) :
    c ∉ host := by
  have apart : c ≠ '[' ∧ c ≠ ']' ∧ c ≠ ':' := by
    revert delimits
    simp [delimiters]
    rintro (rfl | rfl | rfl) <;> decide
  unfold Host.bracketed at h
  split at h
  · cases h
  · split at h
    · next pieces _ =>
      cases h
      unfold Host.ipv6Text
      dsimp only
      split <;> simp [apart, not_mem_piecesText delimits]
    · cases h

theorem not_mem_plain (delimits : c ∈ delimiters) (h : Host.plain text = .ok host) : c ∉ host := by
  unfold Host.plain at h
  split at h
  · exact not_mem_bracketed delimits h
  · split at h
    · cases h
    · next allowed =>
      cases h
      intro member
      have forbidden : ∀ c ∈ delimiters, Host.isForbidden c := by
        rw [forall_mem_delimiters]
        decide
      refine allowed (List.any_eq_true.mpr ⟨c, ?_, forbidden c delimits⟩)
      exact (mem_of_mem_encodeText delimits member).1

theorem not_mem_userInfo (delimits : c ∈ delimiters) : c ∉ Parser.userInfo text := by
  have escaped : ∀ c ∈ delimiters, inUserInfoSet c ∧ c ≠ ':' ∧ c ≠ '@' := by
    rw [forall_mem_delimiters]
    decide
  obtain ⟨inSet, colon, at'⟩ := escaped c delimits
  have part : ∀ text, c ∉ encodeText inUserInfoSet text := fun text member =>
    (mem_of_mem_encodeText delimits member).2 inSet
  unfold Parser.userInfo
  dsimp only
  repeat' split
  all_goals simp [part, colon, at']

theorem not_mem_port {scheme rest portText : List Char} (delimits : c ∈ delimiters)
    (h : Parser.port scheme text = .ok (portText, rest)) : c ∉ portText := by
  have colon : c ≠ ':' := by
    rintro rfl
    exact absurd delimits (by decide)
  unfold Parser.port at h
  split at h
  · obtain ⟨⟨value, after⟩, -, h⟩ := Except.bind_eq_ok_iff.mp h
    dsimp only at h
    split at h
    · cases h
      split
      · exact List.not_mem_nil
      · exact List.not_mem_cons_of_ne_of_not_mem colon (not_mem_toDigits delimits)
    · cases h
      exact List.not_mem_nil
  · cases h
    exact List.not_mem_nil

theorem not_mem_authority {scheme rest : List Char} (delimits : c ∈ delimiters)
    (h : Parser.authority scheme .other text = .ok (host, rest)) : c ∉ host := by
  unfold Parser.authority at h
  dsimp only at h
  split at h
  case' h_2 => split at h
  all_goals
    obtain ⟨⟨user, hostAndPort⟩, read, h⟩ := Except.bind_eq_ok_iff.mp h
    have plainUser : c ∉ user := by cases read <;> simp [not_mem_userInfo delimits]
    rw [if_neg (by decide)] at h
    obtain ⟨name, named, h⟩ := Except.bind_eq_ok_iff.mp h
    split at h
    · cases h
    · obtain ⟨⟨portText, after⟩, ported, h⟩ := Except.bind_eq_ok_iff.mp h
      dsimp only at h
      split at h
      · cases h
      · cases h
        simp [plainUser, not_mem_plain delimits named, not_mem_port delimits ported]

end

/-! ## Paths -/

/-- Neither a query nor a fragment begins in the text. -/
def Unmarked (text : List Char) : Prop :=
  ∀ c ∈ text, c ≠ '?' ∧ c ≠ '#'

theorem unmarked_encodeText {inSet : Char → Bool} {text : List Char}
    (kept : Unmarked text ∨ (inSet '?' ∧ inSet '#')) : Unmarked (encodeText inSet text) := by
  intro c member
  constructor
  · rintro rfl
    obtain ⟨before, plain⟩ := mem_of_mem_encodeText (by decide) member
    rcases kept with unmarked | escaped
    · exact (unmarked '?' before).1 rfl
    · exact plain escaped.1
  · rintro rfl
    obtain ⟨before, plain⟩ := mem_of_mem_encodeText (by decide) member
    rcases kept with unmarked | escaped
    · exact (unmarked '#' before).2 rfl
    · exact plain escaped.2

/-- Neither a query nor a fragment begins in the segments. -/
def Resolved.Unmarked (r : Resolved) : Prop :=
  Uri.Unmarked r.last ∧ ∀ segment ∈ r.done, Uri.Unmarked segment

theorem mem_of_mem_popSegment {done : List (List Char)} {segment : List Char}
    (h : segment ∈ popSegment done) : segment ∈ done := by
  unfold popSegment at h
  split at h
  · split at h
    · exact h
    · exact List.dropLast_subset _ h
  · exact h

theorem unmarked_drive {a : Char} (letter : a.isAlpha) : Unmarked [a, ':'] := by
  intro c member
  rcases List.mem_cons.mp member with rfl | colon
  · constructor
    · rintro rfl
      exact absurd letter (by decide)
    · rintro rfl
      exact absurd letter (by decide)
  · rw [List.mem_singleton.mp colon]
    decide

theorem unmarked_of_cutDrive? {raw drive rest : List Char}
    (h : cutDrive? raw = some (drive, rest)) : Unmarked drive := by
  unfold cutDrive? at h
  obtain ⟨⟨letter, _⟩, -, h⟩ := Option.bind_eq_some_iff.mp h
  obtain ⟨⟨colon, _⟩, -, h⟩ := Option.bind_eq_some_iff.mp h
  dsimp only at h
  split at h
  · next isDrive =>
    cases h
    simp only [Bool.and_eq_true, decide_eq_true_eq] at isDrive
    rw [isDrive.1.1.2]
    exact unmarked_drive isDrive.1.1.1
  · cases h

theorem Resolved.Unmarked.next {r : Resolved} (h : r.Unmarked) (kind : SchemeKind)
    (raw : List Char) : (r.next kind raw).Unmarked := by
  have nothing : Uri.Unmarked [] := fun _ none => absurd none List.not_mem_nil
  have escaped : ∀ text, Uri.Unmarked (encodeText inPathSet text) :=
    fun _ => unmarked_encodeText (.inr (by decide))
  unfold Resolved.next
  dsimp only
  split
  · exact ⟨nothing, fun part member => h.2 part (mem_of_mem_popSegment member)⟩
  split
  · exact ⟨nothing, h.2⟩
  split
  · next drive =>
    refine ⟨fun c member => ?_, h.2⟩
    rcases List.mem_append.mp member with letter | colon
    · exact escaped _ c (List.mem_of_mem_take letter)
    · rw [List.mem_singleton.mp colon]
      decide
  split
  · next drive rest cut =>
    refine ⟨escaped rest, fun segment member => ?_⟩
    rw [List.mem_singleton.mp member]
    split at cut
    · exact unmarked_of_cutDrive? cut
    · cases cut
  · exact ⟨escaped _, h.2⟩

theorem Resolved.Unmarked.resolveSegments {r : Resolved} (h : r.Unmarked) (kind : SchemeKind)
    (raws : List (List Char)) : (resolveSegments kind r raws).Unmarked := by
  induction raws generalizing r with
  | nil => exact h
  | cons raw rest ih =>
      have read := h.next kind raw
      cases rest with
      | nil => exact read
      | cons second more =>
          rw [Uri.resolveSegments]
          · refine ih ?_
            split
            · exact read
            · refine ⟨fun _ none => absurd none List.not_mem_nil, fun segment member => ?_⟩
              rcases List.mem_append.mp member with before | last
              · exact read.2 segment before
              · rw [List.mem_singleton.mp last]
                exact read.1
          · exact List.cons_ne_nil _ _

theorem Resolved.Unmarked.path {r : Resolved} (h : r.Unmarked) : Uri.Unmarked r.path := by
  intro c member
  have slash : '/' ≠ '?' ∧ '/' ≠ '#' := by decide
  simp only [Resolved.path, List.mem_append, List.mem_flatMap, List.mem_singleton] at member
  rcases member with (rfl | ⟨segment, done, inside | rfl⟩) | last
  · exact slash
  · exact h.2 segment done c inside
  · exact slash
  · exact h.1 c last

theorem unmarked_normalPath (kind : SchemeKind) (text : List Char) :
    Unmarked (normalPath kind text) := by
  have start : Resolved.Unmarked {} :=
    ⟨fun _ none => absurd none List.not_mem_nil, fun _ none => absurd none List.not_mem_nil⟩
  have path : Unmarked (resolvePath kind text).path := (start.resolveSegments kind _).path
  unfold normalPath
  dsimp only
  split
  · intro c member
    rcases List.mem_cons.mp member with rfl | later
    · decide
    · exact path c (List.dropWhile_subset _ later)
  · exact path

theorem unmarked_beforeMarks (text : List Char) : Unmarked (Parser.beforeMarks text) := by
  intro c member
  simpa using List.all_eq_true.mp List.all_takeWhile c member

/-! ## The parts of a text -/

/-- The parts of a URI can be told apart in its text. -/
structure Delimited (uri : Uri) : Prop where
  path : Unmarked uri.path.toList
  authority : ∀ a ∈ uri.authority, (∀ c ∈ delimiters, c ∉ a.toList) ∧
    (uri.path.toList = [] ∨ uri.isHierarchical)

theorem delimited_of_other {scheme text : List Char} {uri : Uri}
    (h : Parser.other scheme text = .ok uri) : uri.Delimited := by
  have rooted : ∀ text, Parser.pathAfterAuthority .other text = [] ∨
      (Parser.pathAfterAuthority .other text).head? = some '/' := by
    intro text
    unfold Parser.pathAfterAuthority
    split
    · exact .inl rfl
    · exact .inr rfl
  have unmarked : ∀ text, Unmarked (Parser.pathAfterAuthority .other text) := by
    intro text
    unfold Parser.pathAfterAuthority
    split
    · exact fun _ none => absurd none List.not_mem_nil
    · exact unmarked_normalPath _ _
  unfold Parser.other at h
  split at h
  · obtain ⟨⟨host, rest⟩, read, h⟩ := Except.bind_eq_ok_iff.mp h
    cases h
    constructor
    · simpa [Parser.assemble] using unmarked _
    · rintro a ⟨⟩
      refine ⟨fun c delimits => ?_, ?_⟩
      · rw [String.toList_ofList]
        exact not_mem_authority delimits read
      · simpa [Parser.assemble, isHierarchical] using rooted _
  · cases h
    refine ⟨?_, fun _ none => by cases none⟩
    simpa [Parser.assemble] using unmarked _
  · cases h
    refine ⟨?_, fun _ none => by cases none⟩
    simpa [Parser.assemble] using unmarked_encodeText (.inl (unmarked_beforeMarks text))

/-- The path in a text that comes after a scheme. -/
def pathOf (text : List Char) : List Char :=
  match Parser.beforeMarks text with
  | '/' :: '/' :: rest => rest.dropWhile (· ≠ '/')
  | path => path

/-- The file that a path in a URI means. -/
def fileOf (path : List Char) : Option FilePath :=
  if path.head? = some '/' then some ⟨pathBytes (asFilePath path)⟩ else none

theorem filePath?_eq_fileOf {uri : Uri} (named : uri.scheme ≠ fileScheme) :
    uri.filePath? = fileOf uri.path.toList := by
  rw [filePath?, if_neg named, fileOf, isHierarchical]
  simp only [decide_eq_true_eq]

theorem beforeMarks_append_marked {text : List Char} (unmarked : Unmarked text)
    (query fragment : Option String) :
    Parser.beforeMarks (text ++ marked '?' query ++ marked '#' fragment) = text := by
  have kept : ∀ c ∈ text, decide (c ≠ '?' ∧ c ≠ '#') = true := fun c member =>
    decide_eq_true (unmarked c member)
  unfold Parser.beforeMarks
  rw [List.append_assoc, List.takeWhile_append_of_pos kept]
  cases query <;> cases fragment <;> simp [marked]

theorem segments_ne_nil (isSlash : Char → Bool) (text : List Char) :
    segments isSlash text ≠ [] := by
  cases text with
  | nil => exact List.cons_ne_nil _ _
  | cons c rest =>
      rw [segments]
      split
      · exact List.cons_ne_nil _ _
      · split <;> exact List.cons_ne_nil _ _

/-- The file behind a URI has an absolute path. -/
theorem isAbsolute_of_filePath? {uri : Uri} {path : FilePath}
    (h : uri.filePath? = some path) : path.bytes.head? = some FilePath.slash := by
  have rooted : ∀ text, (FilePath.mk (pathBytes text)).bytes.head? = some FilePath.slash := by
    intro text
    obtain ⟨first, rest, parts⟩ :=
      List.exists_cons_of_ne_nil (segments_ne_nil (· == '/') (text.drop 1))
    unfold pathBytes
    simp only [parts, List.flatMap_cons, List.cons_append]
    split <;> rfl
  unfold filePath? at h
  split at h
  · split at h
    · rw [← Option.some.inj h]
      exact rooted uri.path.toList
    · cases h
  · split at h
    · rw [← Option.some.inj h]
      exact rooted (asFilePath uri.path.toList)
    · cases h

/-- A dot before a path leads nowhere. -/
theorem fileOf_dot (path : List Char) :
    fileOf ('/' :: '.' :: '/' :: path) = fileOf ('/' :: path) := by
  have dropped : resolvePath .file ('.' :: '/' :: path) = resolvePath .file path := by
    let isSlash : Char → Bool := fun c => c == '/' || (SchemeKind.file.isSpecial && c == '\\')
    have cut : segments isSlash ('.' :: '/' :: path) = ['.'] :: segments isSlash path := rfl
    unfold resolvePath
    dsimp only
    rw [show segments _ ('.' :: '/' :: path) = _ from cut, resolveSegments]
    · rfl
    · exact segments_ne_nil _ _
  simp only [fileOf, asFilePath, normalPath, List.drop_one, List.tail_cons, dropped]
  rfl

theorem Delimited.fileOf_pathOf {uri : Uri} (h : uri.Delimited) :
    fileOf (pathOf (uri.beforePath ++ uri.path.toList ++ marked '?' uri.query ++
      marked '#' uri.fragment)) = fileOf uri.path.toList := by
  have slash : '/' ≠ '?' ∧ '/' ≠ '#' := by decide
  have dot : '.' ≠ '?' ∧ '.' ≠ '#' := by decide
  cases here : uri.authority with
  | some a =>
      obtain ⟨plain, rooted⟩ := h.authority a here
      have before : uri.beforePath = '/' :: '/' :: a.toList := by rw [beforePath, here]; rfl
      have host : Unmarked a.toList := fun c member =>
        ⟨fun same => plain '?' (by decide) (same ▸ member),
          fun same => plain '#' (by decide) (same ▸ member)⟩
      have unmarked : Unmarked ('/' :: '/' :: a.toList ++ uri.path.toList) :=
        List.forall_mem_cons.mpr ⟨slash, List.forall_mem_cons.mpr ⟨slash,
          List.forall_mem_append.mpr ⟨host, h.path⟩⟩⟩
      have outside : ∀ c ∈ a.toList, decide (c ≠ '/') = true := fun c member =>
        decide_eq_true (ne_of_mem_of_not_mem member (plain '/' (by decide)))
      have path : (a.toList ++ uri.path.toList).dropWhile (· ≠ '/') = uri.path.toList := by
        rw [List.dropWhile_append_of_pos outside]
        rcases rooted with empty | rooted
        · rw [empty]
          rfl
        · obtain ⟨rest, split⟩ := List.head?_eq_some_iff.mp (of_decide_eq_true rooted)
          rw [split]
          rfl
      rw [before, pathOf, beforeMarks_append_marked unmarked]
      exact congrArg fileOf path
  | none =>
      by_cases slashes : ['/', '/'].isPrefixOf uri.path.toList
      · obtain ⟨rest, split⟩ := List.isPrefixOf_iff_prefix.mp slashes
        have before : uri.beforePath = ['/', '.'] := by rw [beforePath, here]; exact if_pos slashes
        have unmarked : Unmarked (['/', '.'] ++ uri.path.toList) :=
          List.forall_mem_cons.mpr ⟨slash, List.forall_mem_cons.mpr ⟨dot, h.path⟩⟩
        rw [before, pathOf, beforeMarks_append_marked unmarked, ← split]
        exact fileOf_dot ('/' :: rest)
      · have before : uri.beforePath = [] := by rw [beforePath, here]; exact if_neg slashes
        rw [before, List.nil_append, pathOf, beforeMarks_append_marked h.path]
        split
        · next rest path => exact absurd (by rw [path]; rfl) slashes
        · rfl

/-! ## Cells -/

theorem delimited_of_cell {uri : Uri} (read : uri.WasRead)
    (cell : uri.scheme = "vscode-notebook-cell" ∨ uri.scheme = "notebook-cell") :
    uri.Delimited := by
  obtain ⟨s, h⟩ := read
  unfold parse at h
  dsimp only at h
  split at h
  · cases h
  · next scheme rest split =>
    have other : uri.scheme = String.ofList scheme → Parser.kindOf scheme = .other := by
      intro named
      rw [named] at cell
      rw [Parser.kindOf]
      rcases cell with same | same
      all_goals
        rw [same]
        rfl
    split at h
    · next kind => exact absurd (kind.symm.trans (other (Parser.scheme_of_file h))) (by decide)
    · next kind => exact absurd (kind.symm.trans (other (Parser.scheme_of_web h))) (by decide)
    · exact delimited_of_other h

/-- Cells whose URIs have one text lie in one file. -/
theorem filePath?_eq_of_text_eq {u v : Uri} (hu : u.WasRead) (hv : v.WasRead)
    (cell : u.scheme = "vscode-notebook-cell" ∨ u.scheme = "notebook-cell")
    (same : u.text = v.text) : u.filePath? = v.filePath? := by
  have scheme : u.scheme = v.scheme := scheme_eq_of_text_eq hu.isProper hv.isProper same
  have named : u.scheme ≠ fileScheme := by
    rcases cell with scheme | scheme
    all_goals
      rw [scheme]
      decide
  have rest : u.beforePath ++ u.path.toList ++ marked '?' u.query ++ marked '#' u.fragment =
      v.beforePath ++ v.path.toList ++ marked '?' v.query ++ marked '#' v.fragment := by
    have texts := String.ofList_inj.mp same
    rw [scheme] at texts
    simpa [List.append_assoc] using texts
  have one : u.Delimited := delimited_of_cell hu cell
  have other : v.Delimited := delimited_of_cell hv (scheme ▸ cell)
  rw [filePath?_eq_fileOf named, filePath?_eq_fileOf (scheme ▸ named), ← one.fileOf_pathOf,
    ← other.fileOf_pathOf, rest]

/-! ## Files -/

/-- The URI was read from a text or made from a path, as all URIs are. -/
def IsGenuine (uri : Uri) : Prop :=
  uri.WasRead ∨ ∃ path, ofFilePath? path = some uri

theorem IsGenuine.isProper {uri : Uri} (genuine : uri.IsGenuine) : uri.IsProper := by
  rcases genuine with read | ⟨path, made⟩
  · exact read.isProper
  · unfold ofFilePath? at made
    split at made
    · cases made
      exact (by decide : ':' ∉ fileScheme.toList)
    · cases made

theorem unmarked_of_file {scheme text : List Char} {uri : Uri}
    (h : Parser.file scheme text = .ok uri) : Unmarked uri.path.toList := by
  have rooted : ∀ text, Unmarked (Parser.pathAfterAuthority .file text) := fun text =>
    unmarked_normalPath .file (Parser.dropSlash .file text)
  unfold Parser.file at h
  dsimp only at h
  split at h
  · cases h
    simpa [Parser.fileWithoutHost, Parser.assemble] using unmarked_normalPath .file _
  · split at h
    · cases h
      simpa [Parser.fileWithoutHost, Parser.assemble] using unmarked_normalPath .file _
    · split at h
      all_goals
        obtain ⟨host, -, h⟩ := Except.bind_eq_ok_iff.mp h
        split at h
        · cases h
          simpa [Parser.fileWithoutHost, Parser.assemble] using unmarked_normalPath .file _
        · cases h
          simpa [Parser.fileOnHost, Parser.assemble] using rooted _

theorem unmarked_pathOfNames (names : List Bytes) : Unmarked (pathOfNames names) := by
  have slash : '/' ≠ '?' ∧ '/' ≠ '#' := by decide
  have escaped : ∀ b : UInt8, Unmarked (encodeByte inSegmentSet b) := by
    intro b
    unfold encodeByte
    split
    · next plain =>
      intro c member
      rw [List.mem_singleton.mp member]
      constructor
      · intro mark
        rw [mark] at plain
        exact absurd plain.2 (by decide)
      · intro mark
        rw [mark] at plain
        exact absurd plain.2 (by decide)
    · intro c member
      constructor
      · rintro rfl
        exact not_mem_percent (by decide) member
      · rintro rfl
        exact not_mem_percent (by decide) member
  unfold pathOfNames
  split
  · intro c member
    rwa [List.mem_singleton.mp member]
  · intro c member
    obtain ⟨name, -, inside⟩ := List.mem_flatMap.mp member
    rcases List.mem_cons.mp inside with rfl | inside
    · exact slash
    · obtain ⟨b, -, inside⟩ := List.mem_flatMap.mp inside
      exact escaped b c inside

theorem IsGenuine.unmarked_path {uri : Uri} (genuine : uri.IsGenuine)
    (file : uri.scheme = fileScheme) : Unmarked uri.path.toList := by
  rcases genuine with ⟨s, h⟩ | ⟨path, made⟩
  · unfold parse at h
    dsimp only at h
    split at h
    · cases h
    · next scheme rest _ =>
      have kind : uri.scheme = String.ofList scheme → Parser.kindOf scheme = .file := by
        intro named
        rw [Parser.kindOf, ← named, file]
        rfl
      split at h
      · exact unmarked_of_file h
      · next web => cases web.symm.trans (kind (Parser.scheme_of_web h))
      · next other => cases other.symm.trans (kind (Parser.scheme_of_other h))
  · unfold ofFilePath? at made
    split at made
    · cases made
      simpa using unmarked_pathOfNames _
    · cases made

/-- Files whose URIs have one text are one file. -/
theorem eq_of_filePath?_of_text_eq {u v : Uri} {p q : FilePath} (hu : u.IsGenuine)
    (hv : v.IsGenuine) (file : u.scheme = fileScheme) (here : u.filePath? = some p)
    (there : v.filePath? = some q) (same : u.text = v.text) : p = q := by
  have scheme : u.scheme = v.scheme := scheme_eq_of_text_eq hu.isProper hv.isProper same
  have path : ∀ {w : Uri} {r : FilePath}, w.scheme = fileScheme → w.filePath? = some r →
      w.authority = some "" ∧ r = ⟨pathBytes w.path.toList⟩ := by
    intro w r file here
    rw [filePath?, if_pos file] at here
    split at here
    · next nowhere => exact ⟨nowhere, (Option.some.inj here).symm⟩
    · cases here
  obtain ⟨nowhere, rfl⟩ := path file here
  obtain ⟨nowhere', rfl⟩ := path (scheme ▸ file) there
  have before : ∀ {w : Uri}, w.authority = some "" → w.beforePath = ['/', '/'] := by
    intro w nowhere
    rw [beforePath, nowhere]
    rfl
  have rest : u.path.toList ++ marked '?' u.query ++ marked '#' u.fragment =
      v.path.toList ++ marked '?' v.query ++ marked '#' v.fragment := by
    have texts := String.ofList_inj.mp same
    rw [scheme, before nowhere, before nowhere'] at texts
    simpa [List.append_assoc] using texts
  have paths := congrArg Parser.beforeMarks rest
  rw [beforeMarks_append_marked (hu.unmarked_path file),
    beforeMarks_append_marked (hv.unmarked_path (scheme ▸ file))] at paths
  rw [paths]

end RLanguageHost.Uri

namespace RLanguageHost

/-- The file at a path that is written as in a URI. -/
def fileAt (path : String) : Uri :=
  { scheme := Uri.fileScheme, authority := some "", path, query := none, fragment := none }

end RLanguageHost
