import RLanguageHost.FilePath
import RLanguageHost.Glob.Parser
import RLanguageHost.Proofs.Glob.Language
import RLanguageHost.Proofs.Text.Decoding

/-!
# Paths that are patterns

A path is put into a selector as it is, or with `/**/*` after it, and is then read as a pattern. A
text without `[`, the opening brace and the backslash matches its own bytes all the same
(`isMatch_of_spells`): `?` and stars match what they are written with, and so does `**` between
slashes, which takes the slashes around it into its part of the pattern. That is why `HasRead`
remembers, where a slash was read last, what stood before the part that has this slash.

Such a text is no pattern only if it has a closing brace (`exists_parse?`).
-/

namespace RLanguageHost.Glob

/-- A text with no character that gives a pattern another meaning than the text has. -/
def Plain (text : List Char) : Prop :=
  ∀ c ∈ text, c ≠ '[' ∧ c ≠ '\x7b' ∧ c ≠ '\\'

theorem Plain.tail {c : Char} {text : List Char} (h : Plain (c :: text)) : Plain text :=
  fun d member => h d (List.mem_cons_of_mem c member)

theorem Plain.drop {text : List Char} (h : Plain text) : Plain (text.drop 1) :=
  fun c member => h c (List.mem_of_mem_drop member)

/-- A text after a character spells some bytes: its own, but after a slash also nothing for `**/`
and anything for a star at the end. -/
inductive Spells : Option Char → List Char → Bytes → Prop
  | nil {previous : Option Char} : Spells previous [] []
  | char {previous : Option Char} {c : Char} {text : List Char} {bs : Bytes}
      (rest : Spells (some c) text bs) :
      Spells previous (c :: text) (String.utf8EncodeChar c ++ bs)
  | nowhere {text : List Char} {bs : Bytes} (rest : Spells (some '/') text bs) :
      Spells (some '/') ('*' :: '*' :: '/' :: text) bs
  | anything {bs : Bytes} : Spells (some '/') ['*'] bs

/-- Bytes between two slashes which are read as one part, the second slash included. -/
def Directories (between : Bytes) : Prop :=
  between = [] ∨ ∃ names, between = names ++ [FilePath.slash]

/-- What was read of a pattern stands for the bytes so far. After a slash, the part that has the
slash stands for this slash or for directories that end in it. -/
structure HasRead (r : Reader) (previous : Option Char) (done : Bytes) : Prop where
  outside : r.groups = []
  started : r.current ≠ []
  fits : Denotes (pieces r.current) done
  afterSlash : previous = some '/' → ∃ tokens last before between,
    r.current = tokens ++ [last] ∧ (last = .literal '/' ∨ last = .directoriesBetween) ∧
      Denotes (pieces tokens) before ∧ done = before ++ FilePath.slash :: between ∧
      Directories between

section

variable {r : Reader} {previous : Option Char} {c : Char} {token : Token} {tokens : List Token}
  {text : List Char} {done bs : Bytes}

/-! ## What a text spells -/

theorem spells_encode (previous : Option Char) (text : List Char) :
    Spells previous text (Utf8.encode text) := by
  induction text generalizing previous with
  | nil => exact .nil
  | cons c text ih => exact .char (ih (some c))

theorem spells_below (previous : Option Char) (directory : List Char) (bs : Bytes) :
    Spells previous (directory ++ ['/', '*', '*', '/', '*'])
      (Utf8.encode directory ++ FilePath.slash :: bs) := by
  induction directory generalizing previous with
  | nil => exact .char (.nowhere .anything)
  | cons c directory ih =>
    rw [Utf8.encode_cons, List.append_assoc]
    exact .char (ih (some c))

theorem Spells.next (h : Spells previous (c :: text) bs) (noStar : c ≠ '*') :
    ∃ rest, bs = String.utf8EncodeChar c ++ rest ∧ Spells (some c) text rest := by
  cases h with
  | char rest => exact ⟨_, rfl, rest⟩
  | nowhere | anything => exact absurd rfl noStar

theorem Spells.twoStars (h : Spells previous ('*' :: '*' :: text) bs) :
    (∃ rest, bs = [0x2A, 0x2A] ++ rest ∧ Spells (some '*') text rest) ∨
      previous = some '/' ∧ ∃ after, text = '/' :: after ∧ Spells (some '/') after bs := by
  cases h with
  | char rest =>
    cases rest with
    | char rest => exact .inl ⟨_, rfl, rest⟩
  | nowhere rest => exact .inr ⟨rfl, _, rfl, rest⟩

/-! ## One part after another -/

theorem HasRead.push (h : HasRead r previous done) (part : Denotes token.pieces bs)
    (noSlash : c ≠ '/') : HasRead (r.push token) (some c) (done ++ bs) where
  outside := h.outside
  started := by simp [Reader.push]
  fits := by
    rw [Reader.push, pieces_append, pieces_singleton]
    exact h.fits.append part
  afterSlash slash := absurd (Option.some.inj slash) noSlash

theorem HasRead.pushLiteral (h : HasRead r previous done) (c : Char) :
    HasRead (r.push (.literal c)) (some c) (done ++ String.utf8EncodeChar c) := by
  have part : Denotes (Token.literal c).pieces (String.utf8EncodeChar c) :=
    denotes_literalPieces c
  by_cases slash : c = '/'
  · subst slash
    constructor
    · exact h.outside
    · simp [Reader.push]
    · rw [Reader.push, pieces_append, pieces_singleton]
      exact h.fits.append part
    · exact fun _ => ⟨r.current, .literal '/', done, [], rfl, .inl rfl, h.fits, rfl, .inl rfl⟩
  · exact h.push part slash

theorem HasRead.twoRuns (h : HasRead r previous done) :
    HasRead r.twoRuns (some '*') (done ++ [0x2A, 0x2A]) := by
  have star : Denotes Token.anyRun.pieces [0x2A] := denotes_run _
  have both := (h.push star (c := '*') (by decide)).push star (c := '*') (by decide)
  rwa [List.append_assoc] at both

/-- Two stars after a slash replace the part that has the slash. -/
theorem HasRead.current_directories (h : HasRead r (some '/') done) :
    ∃ tokens before between,
      (∀ atEnd, r.directories atEnd =
        { r with current := tokens ++ [if atEnd then .contents else .directoriesBetween] }) ∧
      Denotes (pieces tokens) before ∧ done = before ++ FilePath.slash :: between ∧
      Directories between := by
  obtain ⟨tokens, last, before, between, current, kind, fits, split, names⟩ := h.afterSlash rfl
  refine ⟨tokens, before, between, fun atEnd => ?_, fits, split, names⟩
  unfold Reader.directories
  rw [current, List.getLast?_concat, List.dropLast_concat]
  rcases kind with rfl | rfl <;> rfl

/-- Two stars at the end stand for whatever is below. -/
theorem HasRead.contents (h : HasRead r (some '/') done) (bs : Bytes) :
    HasRead (r.directories true) (some '*') (done ++ bs) := by
  obtain ⟨tokens, before, between, current, fits, rfl, -⟩ := h.current_directories
  rw [current]
  constructor
  · exact h.outside
  · simp
  · have below : Denotes Token.contents.pieces (FilePath.slash :: (between ++ bs)) :=
      (denotes_single FilePath.slash).append (denotes_run (between ++ bs))
    rw [pieces_append, if_pos rfl, pieces_singleton, List.append_assoc, List.cons_append]
    exact fits.append below
  · exact fun slash => absurd (Option.some.inj slash) (by decide)

theorem denotes_directoriesBetween {between : Bytes} (h : Directories between) :
    Denotes Token.directoriesBetween.pieces (FilePath.slash :: between) := by
  rcases h with rfl | ⟨names, rfl⟩
  · exact .choice List.mem_cons_self (denotes_single FilePath.slash)
  · refine .choice (List.mem_cons_of_mem _ List.mem_cons_self) ?_
    have whole := (denotes_single FilePath.slash).append
      ((denotes_run names).append (denotes_single FilePath.slash))
    exact whole

theorem Directories.append {before more : Bytes} (h : Directories before) (h' : Directories more) :
    Directories (before ++ more) := by
  rcases h' with rfl | ⟨names, rfl⟩
  · rwa [List.append_nil]
  · exact .inr ⟨before ++ names, (List.append_assoc _ _ _).symm⟩

/-- Two stars between slashes stand for any directories, also for none. -/
theorem HasRead.directories (h : HasRead r (some '/') done) {more : Bytes}
    (names : Directories more) : HasRead (r.directories false) (some '/') (done ++ more) := by
  obtain ⟨tokens, before, between, current, fits, rfl, first⟩ := h.current_directories
  have all : Directories (between ++ more) := first.append names
  rw [current, List.append_assoc, List.cons_append]
  constructor
  · exact h.outside
  · simp
  · rw [pieces_append, pieces_singleton]
    exact fits.append (denotes_directoriesBetween all)
  · intro _
    exact ⟨tokens, .directoriesBetween, before, between ++ more, rfl, .inr rfl, fits, rfl, all⟩

/-- The ways in which two stars are read outside of groups. -/
theorem HasRead.stars_cases (h : HasRead r previous done) (text : List Char) :
    (r.stars previous text = (r.twoRuns, 0) ∧ ¬(previous = some '/' ∧ text.head? = some '/')) ∨
      previous = some '/' ∧ text = [] ∧ r.stars previous text = (r.directories true, 0) ∨
      previous = some '/' ∧ ∃ after, text = '/' :: after ∧
        r.stars previous text = (r.directories false, 1) := by
  have started : r.current.isEmpty = false := by simpa using h.started
  have starts : r.startsName previous = decide (previous = some '/') := by
    simp [Reader.startsName, h.outside]
  unfold Reader.stars
  rw [if_neg (by simp [started]), starts]
  by_cases slash : previous = some '/'
  · rw [if_neg (by simp [slash])]
    match text with
    | [] => exact .inr (.inl ⟨slash, rfl, rfl⟩)
    | '/' :: after => exact .inr (.inr ⟨slash, after, rfl, rfl⟩)
    | c :: after =>
      by_cases again : c = '/'
      · subst again
        exact .inr (.inr ⟨slash, after, rfl, rfl⟩)
      · left
        simp [h.outside, again]
  · rw [if_pos (by simp [slash])]
    exact .inl ⟨rfl, fun both => slash both.1⟩

/-- Two stars that take no slash with them spell themselves. -/
theorem HasRead.starsAlone (h : HasRead r previous done) {r' : Reader}
    (step : r.stars previous text = (r', 0)) (spells : Spells previous ('*' :: '*' :: text) bs) :
    ∃ read left, bs = read ++ left ∧ HasRead r' (some '*') (done ++ read) ∧
      Spells (some '*') text left := by
  rcases h.stars_cases text with ⟨runs, notBoth⟩ | ⟨rfl, rfl, contents⟩ | ⟨-, -, -, between⟩
  · cases step.symm.trans runs
    rcases spells.twoStars with ⟨left, rfl, after⟩ | ⟨rfl, _, rfl, -⟩
    · exact ⟨_, left, rfl, h.twoRuns, after⟩
    · exact absurd ⟨rfl, rfl⟩ notBoth
  · cases step.symm.trans contents
    rcases spells.twoStars with ⟨left, rfl, after⟩ | ⟨-, _, same, -⟩
    · exact ⟨_, left, rfl, h.contents _, after⟩
    · cases same
  · cases step.symm.trans between

/-- Two stars between slashes spell themselves and the slash after them, or nothing. -/
theorem HasRead.starsBetween (h : HasRead r previous done) {r' : Reader} {taken : Nat}
    (step : r.stars previous text = (r', taken)) (taking : taken ≠ 0)
    (spells : Spells previous ('*' :: '*' :: text) bs) :
    ∃ read left, bs = read ++ left ∧ HasRead r' (some '/') (done ++ read) ∧
      Spells (some '/') (text.drop 1) left := by
  rcases h.stars_cases text with ⟨runs, -⟩ | ⟨-, -, contents⟩ | ⟨rfl, later, rfl, between⟩
  · cases step.symm.trans runs
    exact absurd rfl taking
  · cases step.symm.trans contents
    exact absurd rfl taking
  · cases step.symm.trans between
    rcases spells.twoStars with ⟨_, rfl, slashAfter⟩ | ⟨-, _, same, after⟩
    · obtain ⟨left, rfl, after⟩ := slashAfter.next (by decide)
      have names : Directories [0x2A, 0x2A, FilePath.slash] := .inr ⟨[0x2A, 0x2A], rfl⟩
      exact ⟨_, left, rfl, h.directories names, after⟩
    · cases same
      exact ⟨[], bs, rfl, h.directories (.inl rfl), after⟩

theorem comma_eq_push (outside : r.groups = []) : r.comma = r.push (.literal ',') := by
  unfold Reader.comma
  rw [outside]

/-! ## The whole pattern -/

theorem denotes_of_readTokens (h : HasRead r previous done) (plain : Plain text)
    (spells : Spells previous text bs) (read : readTokens r previous text = some tokens) :
    Denotes (pieces tokens) (done ++ bs) := by
  fun_induction readTokens r previous text generalizing done bs with
  | case1 r previous outside =>
    cases read
    cases spells
    simpa using h.fits
  | case2 | case8 | case11 | case14 => cases read
  | case3 r previous rest ih =>
    obtain ⟨_, rfl, after⟩ := spells.next (by decide)
    rw [← List.append_assoc]
    exact ih (h.push (denotes_any _) (by decide)) plain.tail after read
  | case4 r previous rest r' stars ih =>
    obtain ⟨_, _, rfl, next, after⟩ := h.starsAlone stars spells
    rw [← List.append_assoc]
    exact ih next plain.tail.tail after read
  | case5 r previous rest r' taken stars taking ih =>
    obtain ⟨_, _, rfl, next, after⟩ := h.starsBetween stars taking spells
    rw [← List.append_assoc]
    exact ih next plain.tail.tail.drop after read
  | case6 r previous rest single ih =>
    cases spells with
    | char rest =>
      rw [← List.append_assoc]
      exact ih (h.push (denotes_run _) (by decide)) plain.tail rest read
    | nowhere => exact absurd rfl (single _)
    | anything =>
      have whole := ih (h.push (denotes_run bs) (by decide)) plain.tail .nil read
      simpa using whole
  | case7 r previous rest => exact absurd rfl (plain '[' List.mem_cons_self).1
  | case9 r previous rest => exact absurd rfl (plain '\x7b' List.mem_cons_self).2.1
  | case10 r previous rest r' closed =>
    unfold Reader.closeGroup? at closed
    rw [h.outside] at closed
    cases closed
  | case12 r previous rest ih =>
    rw [comma_eq_push h.outside] at ih read
    obtain ⟨_, rfl, after⟩ := spells.next (by decide)
    rw [← List.append_assoc]
    exact ih (h.pushLiteral ',') plain.tail after read
  | case13 r previous c rest => exact absurd rfl (plain '\\' List.mem_cons_self).2.2
  | case15 r previous c rest _ _ noStar _ _ _ _ _ _ ih =>
    obtain ⟨_, rfl, after⟩ := spells.next noStar
    rw [← List.append_assoc]
    exact ih (h.pushLiteral c) plain.tail after read

theorem groups_stars (r : Reader) (previous : Option Char) (text : List Char) :
    (r.stars previous text).1.groups = r.groups := by
  have directories : ∀ atEnd, (r.directories atEnd).groups = r.groups := by
    intro atEnd
    unfold Reader.directories
    split <;> rfl
  unfold Reader.stars
  repeat' split
  all_goals first
    | rfl
    | exact directories _

/-- Only a closing brace keeps a plain text from being a pattern. -/
theorem exists_readTokens (outside : r.groups = []) (plain : Plain text)
    (noBrace : '\x7d' ∉ text) : ∃ tokens, readTokens r previous text = some tokens := by
  fun_induction readTokens r previous text with
  | case1 => exact ⟨_, rfl⟩
  | case2 r previous inside => exact absurd (by rw [outside]; rfl) inside
  | case3 r previous rest ih | case6 r previous rest _ ih =>
    exact ih outside plain.tail (List.not_mem_of_not_mem_cons noBrace)
  | case4 r previous rest r' stars ih =>
    have kept := groups_stars r previous rest
    rw [stars, outside] at kept
    exact ih kept plain.tail.tail fun brace => noBrace (by simp [brace])
  | case5 r previous rest r' taken stars taking ih =>
    have kept := groups_stars r previous rest
    rw [stars, outside] at kept
    refine ih kept plain.tail.tail.drop ?_
    exact fun brace => noBrace (by simp [List.mem_of_mem_drop brace])
  | case7 | case8 => exact absurd rfl (plain '[' List.mem_cons_self).1
  | case9 => exact absurd rfl (plain '\x7b' List.mem_cons_self).2.1
  | case10 | case11 => exact absurd List.mem_cons_self noBrace
  | case12 r previous rest ih =>
    refine ih ?_ plain.tail (List.not_mem_of_not_mem_cons noBrace)
    rw [comma_eq_push outside]
    exact outside
  | case13 | case14 => exact absurd rfl (plain '\\' List.mem_cons_self).2.2
  | case15 r previous c rest _ _ _ _ _ _ _ _ _ ih =>
    exact ih outside plain.tail (List.not_mem_of_not_mem_cons noBrace)

variable {pattern : String}

/-- A plain pattern for an absolute path matches what it spells. -/
theorem isMatch_of_spells (plain : Plain pattern.toList) (spells : Spells none pattern.toList bs)
    (absolute : bs.head? = some FilePath.slash) (parsed : parse? pattern = some tokens) :
    isMatch tokens bs = true := by
  unfold parse? at parsed
  revert spells plain parsed
  generalize pattern.toList = text
  intro plain spells parsed
  cases spells with
  | nil => cases absolute
  | @char _ c text bs rest =>
    have slash : c = '/' := Utf8.eq_of_head?_encodeChar (v := 0x2F) (by decide) absolute
    subst slash
    have start : HasRead (Reader.push {} (.literal '/')) (some '/') [FilePath.slash] := {
      outside := rfl
      started := List.cons_ne_nil _ _
      fits := denotes_literalPieces '/'
      afterSlash := fun _ =>
        ⟨[], .literal '/', [], [], rfl, .inl rfl, .nil, rfl, .inl rfl⟩ }
    have first : readTokens {} none ('/' :: text) =
        readTokens (Reader.push {} (.literal '/')) (some '/') text := by
      rw [readTokens]
      all_goals simp
    exact isMatch_of_denotes (denotes_of_readTokens start plain.tail rest (first ▸ parsed))

theorem exists_parse? (plain : Plain pattern.toList) (noBrace : '\x7d' ∉ pattern.toList) :
    ∃ tokens, parse? pattern = some tokens :=
  exists_readTokens rfl plain noBrace

/-! ## Texts that are no patterns in fact -/

/-- A text with no character that makes a pattern of it. -/
def Literal (text : List Char) : Prop :=
  ∀ c ∈ text, c ∉ ['?', '*', '[', '\x7b', '\x7d', '\\']

theorem Literal.tail (literal : Literal (c :: text)) : Literal text :=
  fun d member => literal d (List.mem_cons_of_mem c member)

theorem readTokens_literal_cons (outside : r.groups = [])
    (plain : c ∉ ['?', '*', '[', '\x7b', '\x7d', '\\']) :
    readTokens r previous (c :: text) = readTokens (r.push (.literal c)) (some c) text := by
  by_cases comma : c = ','
  · subst comma
    rw [readTokens, comma_eq_push outside]
  · simp only [List.mem_cons, List.not_mem_nil, or_false, not_or] at plain
    rw [readTokens]
    all_goals simp [comma, plain]

/-- Literal text is read character by character. -/
theorem readTokens_literal_append (outside : r.groups = []) (literal : Literal text)
    (more : List Char) :
    readTokens r previous (text ++ more) =
      readTokens { r with current := r.current ++ text.map .literal }
        (text.getLast?.or previous) more := by
  induction text generalizing r previous with
  | nil => simp
  | cons c text ih =>
    rw [List.cons_append, readTokens_literal_cons outside (literal c List.mem_cons_self),
      ih (r := r.push (.literal c)) outside literal.tail]
    simp [Reader.push, List.getLast?_cons]

theorem readTokens_of_literal (outside : r.groups = []) (literal : Literal text) :
    readTokens r previous text = some (r.current ++ text.map .literal) := by
  have read : readTokens r previous (text ++ []) = _ := readTokens_literal_append outside literal []
  rw [List.append_nil] at read
  rw [read, readTokens, outside]
  rfl

theorem pieces_map_literal (text : List Char) :
    pieces (text.map .literal) = (Utf8.encode text).map fun b => .one (.single b) := by
  induction text with
  | nil => rfl
  | cons c text ih =>
    rw [List.map_cons, pieces, ih, Utf8.encode_cons, List.map_append]
    rfl

/-- A literal text is a pattern for its own bytes alone. -/
theorem isMatch_iff_of_literal (literal : Literal pattern.toList)
    (parsed : parse? pattern = some tokens) : isMatch tokens bs = true ↔ bs = bytesOf pattern := by
  have read : some tokens = some (pattern.toList.map .literal) :=
    parsed.symm.trans (readTokens_of_literal rfl literal)
  obtain rfl := Option.some.inj read
  rw [isMatch_iff (by cases pattern.toList <;> simp), pieces_map_literal, denotes_singles_iff,
    bytesOf]

theorem exists_parse?_of_literal (literal : Literal pattern.toList) :
    ∃ tokens, parse? pattern = some tokens :=
  ⟨_, readTokens_of_literal rfl literal⟩

end

end RLanguageHost.Glob
