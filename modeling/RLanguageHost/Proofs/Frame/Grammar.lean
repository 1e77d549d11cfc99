import RLanguageHost.Proofs.Frame.Reference
import RLanguageHost.Proofs.Text.Decoding

/-!
# The grammar of headers

A header is a text of lines. What it says about the body is said by its first line that has the
right name before its first colon, and by the numeral after the colon: decimal digits, which may
follow a plus sign, with any white space around. `Says` is this grammar, with the three ways in
which a header can be wrong. It does not refer to the functions that read headers, and what they
read is what the header says (`contentLength_eq_iff`).

A length from the header is counted from the end of the header, in bytes. `BodyAt` says what becomes
of it: the count leads to a place within the text or the text is incomplete, and the body is taken
off only if that place lies between two characters.
-/

namespace RLanguageHost

/-! ## White space around a text -/

namespace Text

variable {text core before : List Char} {c : Char}

/-- A text without the white space around it: what is left has none at either end. -/
structure IsCore (core text : List Char) : Prop where
  around : ∃ before after, text = before ++ core ++ after ∧
    (∀ c ∈ before, isBlank c = true) ∧ ∀ c ∈ after, isBlank c = true
  first : ∀ c, core.head? = some c → isBlank c = false
  last : ∀ c, core.getLast? = some c → isBlank c = false

theorem trimStart_append (blank : ∀ c ∈ before, isBlank c = true) (text : List Char) :
    trimStart (before ++ text) = trimStart text :=
  List.dropWhile_append_of_pos blank

theorem trimStart_cons (solid : isBlank c = false) (text : List Char) :
    trimStart (c :: text) = c :: text :=
  List.dropWhile_cons_of_neg (by simp [solid])

theorem isBlank_of_head?_trimStart (head : (trimStart text).head? = some c) :
    isBlank c = false := by
  have first := List.head?_dropWhile_not isBlank text
  rw [← trimStart, head] at first
  exact first

theorem IsCore.trim_eq (h : IsCore core text) : trim text = core := by
  obtain ⟨⟨before, after, rfl, blank, blank'⟩, first, last⟩ := h
  rw [trim, List.append_assoc, trimStart_append blank]
  cases core with
  | nil =>
      have nothing := trimStart_append blank' []
      rw [List.append_nil] at nothing
      rw [List.nil_append, nothing]
      rfl
  | cons c core =>
      rw [List.cons_append, trimStart_cons (first c rfl), ← List.cons_append,
        dropEndWhile_append blank', dropEndWhile_eq_self_iff]
      exact last

theorem isCore_trim (text : List Char) : IsCore (trim text) text := by
  obtain ⟨after, split, blank⟩ := exists_eq_append_dropEndWhile isBlank (trimStart text)
  refine ⟨⟨text.takeWhile isBlank, after, ?_, fun c member => ?_, blank⟩, fun c head => ?_,
    fun c last => ?_⟩
  · rw [List.append_assoc, trim, ← split, trimStart, List.takeWhile_append_dropWhile]
  · exact List.all_eq_true.mp List.all_takeWhile c member
  · have front : (trimStart text).head? = some c := by
      rw [split, List.head?_append, ← trim, head]
      rfl
    exact isBlank_of_head?_trimStart front
  · obtain ⟨front, kept⟩ := List.getLast?_eq_some_iff.mp last
    exact last_dropEndWhile kept

end Text

/-! ## Numerals -/

namespace Decimal

variable {text : List Char} {n : Nat}

/-- The number that digits stand for; there is at least one. -/
inductive Digits : List Char → Nat → Prop where
  | one {c : Char} (digit : c.isDigit) : Digits [c] (digitValue c)
  | more {text : List Char} {n : Nat} {c : Char} (front : Digits text n) (digit : c.isDigit) :
      Digits (text ++ [c]) (10 * n + digitValue c)

/-- The number that a numeral stands for: digits, which may follow a plus sign. -/
inductive Numeral : List Char → Nat → Prop where
  | plain {text : List Char} {n : Nat} (digits : Digits text n) : Numeral text n
  | signed {text : List Char} {n : Nat} (digits : Digits text n) : Numeral ('+' :: text) n

theorem ofDigits_concat (text : List Char) (c : Char) :
    ofDigits (text ++ [c]) = 10 * ofDigits text + digitValue c := by
  rw [ofDigits, List.foldl_append, ofDigits, Nat.mul_comm]
  rfl

theorem Digits.eq (h : Digits text n) :
    text ≠ [] ∧ (∀ c ∈ text, c.isDigit) ∧ ofDigits text = n := by
  induction h with
  | @one c digit =>
      refine ⟨List.cons_ne_nil _ _, by simpa using digit, ?_⟩
      rw [← List.nil_append [c], ofDigits_concat]
      exact Nat.zero_add _
  | @more text n c front digit ih =>
      obtain ⟨-, all, rfl⟩ := ih
      refine ⟨by simp, fun d member => ?_, ofDigits_concat text c⟩
      rcases List.mem_append.mp member with before | last
      · exact all d before
      · exact List.mem_singleton.mp last ▸ digit

theorem Digits.append {front : List Char} (h : Digits front n) (all : ∀ c ∈ text, c.isDigit) :
    Digits (front ++ text) (text.foldl (fun n c => n * 10 + digitValue c) n) := by
  -- `Digits` grows at the end, so what has been read so far goes into the front.
  induction text generalizing front n with
  | nil => rwa [List.append_nil]
  | cons c text ih =>
      have next := h.more (all c List.mem_cons_self)
      rw [Nat.mul_comm] at next
      simpa using ih next fun d later => all d (.tail c later)

theorem digits_iff :
    Digits text n ↔ text ≠ [] ∧ (∀ c ∈ text, c.isDigit) ∧ ofDigits text = n := by
  refine ⟨Digits.eq, ?_⟩
  rintro ⟨some, all, rfl⟩
  cases text with
  | nil => exact absurd rfl some
  | cons c text =>
      have digits := (Digits.one (all c List.mem_cons_self)).append
        fun d later => all d (.tail c later)
      rwa [← Nat.zero_add (digitValue c), ← Nat.zero_mul 10] at digits

theorem numeral_iff : Numeral text n ↔ Digits (dropPlus text) n := by
  constructor
  · rintro (digits | digits)
    · rwa [dropPlus_of_isDigit digits.eq.2.1]
    · exact digits
  · unfold dropPlus
    split
    · exact .signed
    · exact .plain

/-- A text is a machine word if it is a numeral and its number is small enough. -/
theorem word?_eq_some_iff : word? text = some n ↔ Numeral text n ∧ n < wordBound := by
  rw [numeral_iff, digits_iff, word?]
  by_cases digits : dropPlus text ≠ [] ∧ ∀ c ∈ dropPlus text, c.isDigit
  · have right : ((dropPlus text).isEmpty || !(dropPlus text).all Char.isDigit) = false := by
      simpa using digits
    simp only [right]
    grind
  · have wrong : ((dropPlus text).isEmpty || !(dropPlus text).all Char.isDigit) = true := by
      simpa [Decidable.or_iff_not_imp_left] using digits
    simp only [wrong, if_true]
    grind

end Decimal

/-! ## Lines -/

namespace Frame

variable {text line value : List Char}

/-- A text consists of lines. Each ends with a newline, or with a carriage return and a newline; the
last one may lack its end. -/
inductive Consists : List Char → List (List Char) → Prop where
  | nil : Consists [] []
  | last {line : List Char} (some : line ≠ []) (whole : '\n' ∉ line) : Consists line [line]
  | newline {line rest : List Char} {lines : List (List Char)} (whole : '\n' ∉ line)
      (bare : line.getLast? ≠ some '\r') (later : Consists rest lines) :
      Consists (line ++ '\n' :: rest) (line :: lines)
  | returned {line rest : List Char} {lines : List (List Char)} (whole : '\n' ∉ line)
      (later : Consists rest lines) : Consists (line ++ '\r' :: '\n' :: rest) (line :: lines)

theorem lines_go_cons {c : Char} (other : c ≠ '\n') (begun rest : List Char) :
    lines.go begun (c :: rest) = lines.go (c :: begun) rest :=
  if_neg other

theorem lines_go_return (begun rest : List Char) :
    lines.go ('\r' :: begun) ('\n' :: rest) = begun.reverse :: lines rest :=
  rfl

theorem lines_go_newline {begun : List Char} (bare : begun.head? ≠ some '\r')
    (rest : List Char) : lines.go begun ('\n' :: rest) = begun.reverse :: lines rest := by
  rw [lines.go, if_pos rfl, lines]
  rintro front rfl
  exact bare rfl

theorem lines_go_append (whole : '\n' ∉ line) (begun rest : List Char) :
    lines.go begun (line ++ rest) = lines.go (line.reverse ++ begun) rest := by
  induction line generalizing begun with
  | nil => rfl
  | cons c line ih =>
      simp only [List.mem_cons, not_or] at whole
      rw [List.cons_append, lines_go_cons (Ne.symm whole.1), ih whole.2]
      simp

theorem lines_newline (whole : '\n' ∉ line) (bare : line.getLast? ≠ some '\r')
    (rest : List Char) : lines (line ++ '\n' :: rest) = line :: lines rest := by
  rw [← List.head?_reverse] at bare
  rw [lines, lines_go_append whole, List.append_nil, lines_go_newline bare, List.reverse_reverse]

theorem lines_returned (whole : '\n' ∉ line) (rest : List Char) :
    lines (line ++ '\r' :: '\n' :: rest) = line :: lines rest := by
  rw [lines, lines_go_append whole, List.append_nil, lines_go_cons (by decide), lines_go_return,
    List.reverse_reverse]

theorem Consists.lines_eq {ls : List (List Char)} (h : Consists text ls) : lines text = ls := by
  induction h with
  | nil => rfl
  | last some whole => exact lines_of_not_mem whole some
  | newline whole bare _ ih => rw [lines_newline whole bare, ih]
  | returned whole _ ih => rw [lines_returned whole, ih]

theorem consists_lines_go (text : List Char) {begun : List Char} (whole : '\n' ∉ begun) :
    Consists (begun.reverse ++ text) (lines.go begun text) := by
  -- A line is only known to be one of `returned` when its newline is met: the return before it has
  -- been read into the line by then.
  induction text generalizing begun with
  | nil =>
      cases begun with
      | nil => exact .nil
      | cons c begun =>
          rw [List.append_nil]
          exact .last (by simp) (by rwa [List.mem_reverse])
  | cons c text ih =>
      by_cases newline : c = '\n'
      · subst newline
        have later : Consists text (lines text) := ih List.not_mem_nil
        by_cases returned : begun.head? = some '\r'
        · obtain ⟨line, rfl⟩ := List.head?_eq_some_iff.mp returned
          rw [lines_go_return]
          simp only [List.mem_cons, not_or] at whole
          simpa using Consists.returned (by simpa using whole.2) later
        · rw [lines_go_newline returned]
          exact .newline (by simpa using whole) (by rwa [List.getLast?_reverse]) later
      · have whole' : '\n' ∉ c :: begun := by
          simp only [List.mem_cons, not_or]
          exact ⟨Ne.symm newline, whole⟩
        rw [lines_go_cons newline]
        simpa using ih whole'

theorem consists_iff {ls : List (List Char)} : Consists text ls ↔ lines text = ls :=
  ⟨Consists.lines_eq, fun same => same ▸ consists_lines_go text List.not_mem_nil⟩

/-! ## What headers say -/

/-- A line announces the value after its first colon, if the name before it is that of the length.
Upper and lower case of ASCII letters are the same in the name, and white space around name and
value does not belong to them. -/
inductive Announces : List Char → List Char → Prop where
  | intro {name label text value : List Char} (plain : ':' ∉ name)
      (label_core : Text.IsCore label name)
      (length : label.map Char.toLower = "content-length".toList)
      (value_core : Text.IsCore value text) : Announces (name ++ ':' :: text) value

/-- A header gives the value that is announced by the first line that announces any. -/
inductive Gives : List Char → List Char → Prop where
  | first {header line value : List Char} {before after : List (List Char)}
      (lines : Consists header (before ++ line :: after))
      (silent : ∀ other ∈ before, ∀ value, ¬ Announces other value)
      (announces : Announces line value) : Gives header value

/-- What a value means: a length, one that is too large, or nothing at all. -/
inductive Means (value : List Char) : Except Error Nat → Prop where
  | length {n : Nat} (numeral : Decimal.Numeral value n) (small : n ≤ maxLength) :
      Means value (.ok n)
  | tooLarge {n : Nat} (numeral : Decimal.Numeral value n) (large : maxLength < n)
      (word : n < Decimal.wordBound) : Means value (.error (.tooLarge n maxLength))
  | nothing (other : ∀ n, Decimal.Numeral value n → Decimal.wordBound ≤ n) :
      Means value (.error (.invalidLength (String.ofList value)))

/-- What a header says: what the value means that it gives, or that it gives none. -/
inductive Says (header : List Char) : Except Error Nat → Prop where
  | missing (none : ∀ value, ¬ Gives header value) :
      Says header (.error (.invalidFormat "Missing Content-Length header"))
  | given {value : List Char} {result : Except Error Nat} (gives : Gives header value)
      (means : Means value result) : Says header result

theorem splitColon_eq_some_iff {name : List Char} :
    splitColon line = some (name, text) ↔ line = name ++ ':' :: text ∧ ':' ∉ name := by
  constructor
  · intro found
    rw [splitColon] at found
    split at found
    · cases found
    · next c rest colon =>
      cases found
      have head := List.head?_dropWhile_not (fun c => decide (c ≠ ':')) line
      rw [colon] at head
      obtain rfl : c = ':' := by simpa using head
      refine ⟨?_, fun member => ?_⟩
      · rw [← colon, List.takeWhile_append_dropWhile]
      · simpa using List.all_eq_true.mp List.all_takeWhile ':' member
  · rintro ⟨rfl, plain⟩
    exact splitColon_append plain text

theorem sameIgnoringCase_lengthName (label : List Char) :
    sameIgnoringCase label lengthName.toList ↔
      label.map Char.toLower = "content-length".toList := by
  have small : lengthName.toList.map Char.toLower = "content-length".toList := by decide
  rw [sameIgnoringCase, small, decide_eq_true_iff]

theorem lengthValue?_eq_some_iff : lengthValue? line = some value ↔ Announces line value := by
  constructor
  · intro found
    rw [lengthValue?] at found
    split at found
    · cases found
    · next name text colon =>
      obtain ⟨rfl, plain⟩ := splitColon_eq_some_iff.mp colon
      split at found
      · next length =>
        cases found
        exact .intro plain (Text.isCore_trim name) ((sameIgnoringCase_lengthName _).mp length)
          (Text.isCore_trim text)
      · cases found
  · rintro ⟨plain, label_core, length, value_core⟩
    simp only [lengthValue?, splitColon_append plain, label_core.trim_eq, value_core.trim_eq]
    exact if_pos ((sameIgnoringCase_lengthName _).mpr length)

theorem lengthValue?_eq_none_iff :
    lengthValue? line = none ↔ ∀ value, ¬ Announces line value := by
  simp only [← lengthValue?_eq_some_iff, Option.eq_none_iff_forall_ne_some, ne_eq]

theorem gives_iff {header : List Char} :
    Gives header value ↔ (lines header).findSome? lengthValue? = some value := by
  rw [List.findSome?_eq_some_iff]
  constructor
  · rintro ⟨read, silent, announces⟩
    exact ⟨_, _, _, read.lines_eq, lengthValue?_eq_some_iff.mpr announces, fun other member =>
      lengthValue?_eq_none_iff.mpr (silent other member)⟩
  · rintro ⟨before, line, after, read, announces, silent⟩
    exact .first (consists_iff.mpr read) (fun other member =>
      lengthValue?_eq_none_iff.mp (silent other member)) (lengthValue?_eq_some_iff.mp announces)

theorem lengthOf_eq_iff {result : Except Error Nat} :
    lengthOf value = result ↔ Means value result := by
  have means : Means value (lengthOf value) := by
    rw [lengthOf]
    split
    · next none =>
      refine .nothing fun n numeral => Nat.le_of_not_lt fun word => ?_
      rw [Decimal.word?_eq_some_iff.mpr ⟨numeral, word⟩] at none
      cases none
    · next n found =>
      obtain ⟨numeral, word⟩ := Decimal.word?_eq_some_iff.mp found
      split
      · next large => exact .tooLarge numeral large word
      · next small => exact .length numeral (Nat.le_of_not_lt small)
  -- A value cannot mean two things, since its number is unique and within bounds or not.
  refine ⟨fun same => same ▸ means, fun other => ?_⟩
  cases other with
  | length numeral small =>
      have found := Decimal.word?_eq_some_iff.mpr ⟨numeral, Nat.lt_of_le_of_lt small (by decide)⟩
      simp only [lengthOf, found, if_neg (Nat.not_lt.mpr small)]
  | tooLarge numeral large word =>
      have found := Decimal.word?_eq_some_iff.mpr ⟨numeral, word⟩
      simp only [lengthOf, found, if_pos large]
  | nothing other =>
      have none : Decimal.word? value = none := by
        rw [Option.eq_none_iff_forall_ne_some]
        intro n found
        obtain ⟨numeral, word⟩ := Decimal.word?_eq_some_iff.mp found
        exact absurd word (Nat.not_lt.mpr (other n numeral))
      simp only [lengthOf, none]

theorem Gives.contentLength_eq {header : List Char} (h : Gives header value) :
    contentLength header = lengthOf value := by
  rw [contentLength, gives_iff.mp h]

/-- What is read from a header is what it says, and nothing else is. -/
theorem contentLength_eq_iff {header : List Char} {result : Except Error Nat} :
    contentLength header = result ↔ Says header result := by
  cases found : (lines header).findSome? lengthValue? with
  | none =>
      have silent (value : List Char) : ¬ Gives header value := fun gives => by
        rw [gives_iff.mp gives] at found
        cases found
      constructor
      · rintro rfl
        rw [contentLength, found]
        exact .missing silent
      · rintro (_ | ⟨gives, -⟩)
        · rw [contentLength, found]
          rfl
        · exact absurd gives (silent _)
  | some value =>
      have gives := gives_iff.mpr found
      rw [gives.contentLength_eq]
      constructor
      · exact fun same => .given gives (lengthOf_eq_iff.mp same)
      · rintro (none | ⟨gives', means⟩)
        · exact absurd gives (none value)
        · cases found.symm.trans (gives_iff.mp gives')
          exact lengthOf_eq_iff.mpr means

/-! ## Places in a text -/

theorem length_encode (text : List Char) : (Utf8.encode text).length = byteLength text := by
  induction text with
  | nil => rfl
  | cons c text ih =>
      rw [Utf8.encode_cons, List.length_append, String.length_utf8EncodeChar, ih, byteLength_cons]

theorem eq_nil_of_byteLength (nothing : byteLength text = 0) : text = [] := by
  cases text with
  | nil => rfl
  | cons c text =>
      have wide := c.utf8Size_pos
      rw [byteLength_cons] at nothing
      omega

/-- Whether a place in a text, counted in bytes, lies between two characters or at an end. -/
def IsBetween (text : List Char) (place : Nat) : Prop :=
  ∃ front rest, text = front ++ rest ∧ (Utf8.encode front).length = place

theorem isBetween_append_iff {front : List Char} {n : Nat} :
    IsBetween (front ++ text) ((Utf8.encode front).length + n) ↔
      ∃ body left, text = body ++ left ∧ byteLength body = n := by
  constructor
  · rintro ⟨read, left, split, place⟩
    rw [length_encode, length_encode] at place
    -- Either the place is behind the front, or what is between them has no bytes.
    rcases List.append_eq_append_iff.mp split with ⟨body, rfl, rfl⟩ | ⟨back, rfl, rfl⟩
    · rw [byteLength_append] at place
      exact ⟨body, left, rfl, Nat.add_left_cancel place⟩
    · rw [byteLength_append] at place
      have nothing : back = [] := eq_nil_of_byteLength (by omega)
      subst nothing
      exact ⟨[], text, rfl, by rw [byteLength_nil] at place ⊢; omega⟩
  · rintro ⟨body, left, rfl, rfl⟩
    refine ⟨front ++ body, left, (List.append_assoc ..).symm, ?_⟩
    rw [Utf8.encode_append, List.length_append, length_encode body]

/-- How a body of `n` bytes is taken off a text from a place on. The end of the body is looked for
only within the text, and what is taken off are whole characters. -/
structure BodyAt (text : List Char) (start n : Nat) : Prop where
  start_le : start ≤ (Utf8.encode text).length
  short : (Utf8.encode text).length - start < n → parse text = .incomplete
  stop_le : n ≤ (Utf8.encode text).length - start → start + n ≤ (Utf8.encode text).length
  whole : n ≤ (Utf8.encode text).length - start → IsBetween text (start + n) →
    ∃ body left, parse text = .message body left ∧
      Utf8.encode body = ((Utf8.encode text).drop start).take n ∧
      Utf8.encode left = (Utf8.encode text).drop (start + n)
  split : n ≤ (Utf8.encode text).length - start → ¬ IsBetween text (start + n) →
    parse text = .bad (.invalidFormat "Content-Length does not end on a character boundary")

theorem bodyAt_of_contentLength {header rest : List Char} {n : Nat}
    (cut : FirstBoundary text header rest) (length : contentLength header = .ok n) :
    BodyAt text (Utf8.encode (header ++ boundary)).length n := by
  obtain rfl := cut.eq
  have bytes : (Utf8.encode (header ++ boundary ++ rest)).length =
      (Utf8.encode (header ++ boundary)).length + byteLength rest := by
    rw [Utf8.encode_append, List.length_append, length_encode rest]
  have available : (Utf8.encode (header ++ boundary ++ rest)).length -
      (Utf8.encode (header ++ boundary)).length = byteLength rest := by
    omega
  refine ⟨by omega, fun short => ?_, fun enough => by omega, fun _ between => ?_,
    fun enough within => ?_⟩
  · rw [available] at short
    simp only [parse, cut.splitHeader_eq, length, takeBytes_eq_short short]
  · obtain ⟨body, left, rfl, rfl⟩ := isBetween_append_iff.mp between
    refine ⟨body, left, ?_, ?_, ?_⟩
    · simp only [parse, cut.splitHeader_eq, length, takeBytes_byteLength]
    · rw [Utf8.encode_append (header ++ boundary), Utf8.encode_append body, List.drop_left,
        ← length_encode, List.take_left]
    · rw [Utf8.encode_append (header ++ boundary), Utf8.encode_append body, ← length_encode body,
        ← List.drop_drop, List.drop_left, List.drop_left]
  · rw [available] at enough
    have apart (front back : List Char) (split : rest = front ++ back) : byteLength front ≠ n :=
      fun same => within (isBetween_append_iff.mpr ⟨front, back, split, same⟩)
    simp only [parse, cut.splitHeader_eq, length, takeBytes_eq_split enough apart]
    rfl

theorem firstBoundary_frame (body : List Char) :
    FirstBoundary (frame body) (header (byteLength body)) body :=
  firstBoundary_of_splitHeader
    (splitHeader_append (not_mem_header (by decide) (by decide) (byteLength body)) body)

/-- What is read from a header is what it says, which is a matter of the first value that it gives
alone. The header that is written in front of a body says the length of the body, and a body is
taken off behind a header without leaving the text or cutting a character. -/
theorem header_grammar :
    (∀ header result, contentLength header = result ↔ Says header result) ∧
    (∀ header other value, Gives header value → Gives other value →
      contentLength header = contentLength other) ∧
    (∀ body, (Utf8.encode body).length ≤ maxLength → ∃ header,
      FirstBoundary (frame body) header body ∧
        contentLength header = .ok (Utf8.encode body).length) ∧
    ∀ text header rest n, FirstBoundary text header rest → contentLength header = .ok n →
      BodyAt text (Utf8.encode (header ++ boundary)).length n := by
  refine ⟨fun header result => contentLength_eq_iff, fun header other value gives gives' => ?_,
    fun body small => ?_, fun text header rest n => bodyAt_of_contentLength⟩
  · rw [gives.contentLength_eq, gives'.contentLength_eq]
  · rw [length_encode] at small ⊢
    exact ⟨_, firstBoundary_frame body, contentLength_header small⟩

/-- A line about something else, the length in other letters with a sign, a zero and white space,
and a second length that does not count. The body is one character of two bytes. -/
theorem header_grammar_second_line :
    let header := "X: 1\r\n content-LENGTH\u00A0:\t+02 \nContent-Length: 9".toList
    let text := header ++ boundary ++ "é!".toList
    Gives header "+02".toList ∧ Gives "Content-Length: +02".toList "+02".toList ∧
      FirstBoundary text header "é!".toList ∧
      Says header (.ok 2) ∧ contentLength header = contentLength "Content-Length: +02".toList ∧
      (∃ header, FirstBoundary (frame "é".toList) header "é".toList ∧
        contentLength header = .ok (Utf8.encode "é".toList).length) ∧
      BodyAt text (Utf8.encode (header ++ boundary)).length 2 := by
  intro header text
  obtain ⟨read, same, written, taken⟩ := header_grammar
  have gives : Gives header "+02".toList := gives_iff.mpr (by decide +kernel)
  have plain : Gives "Content-Length: +02".toList "+02".toList := gives_iff.mpr (by decide +kernel)
  have cut : FirstBoundary text header "é!".toList :=
    firstBoundary_of_splitHeader (by decide +kernel)
  have length : contentLength header = .ok 2 := by
    rw [gives.contentLength_eq]
    rfl
  exact ⟨gives, plain, cut, (read _ _).mp length, same _ _ _ gives plain,
    written _ (by decide), taken _ _ _ _ cut length⟩

end Frame

end RLanguageHost
