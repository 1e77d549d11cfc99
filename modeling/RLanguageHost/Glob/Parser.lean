import RLanguageHost.Glob.Basic

/-!
# Reading glob patterns

A pattern is read from left to right. Groups in braces may be nested, so the reader keeps the
patterns around the one it is in. There is no pattern if a bracket or brace is not closed, a brace
is closed that was not opened, a range of a class is reversed, or a backslash comes last.
-/

namespace RLanguageHost.Glob

structure OpenGroup where
  /-- The alternatives before the current one. -/
  finished : List (List Token)
  /-- The pattern before the group. -/
  before : List Token

structure Reader where
  /-- The pattern in the innermost open group. -/
  current : List Token := []
  /-- The groups around it, the innermost first. -/
  groups : List OpenGroup := []

namespace Reader

/-- Adds a part to the pattern. -/
def push (r : Reader) (token : Token) : Reader :=
  { r with current := r.current ++ [token] }

def openGroup (r : Reader) : Reader :=
  { current := [], groups := ⟨[], r.current⟩ :: r.groups }

def closeGroup? (r : Reader) : Option Reader :=
  match r.groups with
  | [] => none
  | group :: groups =>
    some
      { current := group.before ++ [.alternatives (group.finished ++ [r.current])]
        groups }

/-- A comma, which separates alternatives in a group and is a character elsewhere. -/
def comma (r : Reader) : Reader :=
  match r.groups with
  | [] => r.push (.literal ',')
  | group :: groups =>
    { current := [], groups := ⟨group.finished ++ [r.current], group.before⟩ :: groups }

/-- Two stars that are no whole name of a path. -/
def twoRuns (r : Reader) : Reader :=
  (r.push .anyRun).push .anyRun

/-- Whether two stars with `previous` before them start a name of the path. A group and a comma
count as starts inside a group. -/
def startsName (r : Reader) (previous : Option Char) : Bool :=
  previous = some '/' || (!r.groups.isEmpty && (previous = some ',' || previous = some '\x7b'))

/-- Replaces the slash before two stars. Stars that follow other such stars add nothing. -/
def directories (r : Reader) (atEnd : Bool) : Reader :=
  match r.current.getLast? with
  | some .directoriesFirst => r
  | some .contents => r
  | _ =>
    { r with current := r.current.dropLast ++ [if atEnd then .contents else .directoriesBetween] }

/-- Two stars. Yields how many characters after them belong to them. -/
def stars (r : Reader) (previous : Option Char) (rest : List Char) : Reader × Nat :=
  if r.current.isEmpty then
    match rest with
    | [] => (r.push .directoriesFirst, 0)
    | '/' :: _ => (r.push .directoriesFirst, 1)
    | _ => (r.twoRuns, 0)
  else if !r.startsName previous then (r.twoRuns, 0)
  else
    match rest with
    | [] => (r.directories true, 0)
    | '/' :: _ => (r.directories false, 1)
    | c :: _ =>
      if !r.groups.isEmpty ∧ (c = ',' ∨ c = '\x7d') then (r.directories true, 0)
      else (r.twoRuns, 0)

end Reader

/-- Extends the last range of a class to a character. -/
def extendRange? (ranges : List (Char × Char)) (c : Char) : Option (List (Char × Char)) :=
  match ranges.getLast? with
  | some (low, _) => if c < low then none else some (ranges.dropLast ++ [(low, c)])
  | none => none

/-- The ranges of a class up to its bracket, and the text after it. `first` tells that no character
was read, `inRange` that the last one was a hyphen which may be a range's. -/
def readClass (first inRange : Bool) (ranges : List (Char × Char)) :
    List Char → Option (List (Char × Char) × List Char)
  | [] => none
  | c :: rest =>
    if c = ']' ∧ !first then
      some (if inRange then ranges ++ [('-', '-')] else ranges, rest)
    else if c = ']' then readClass false inRange (ranges ++ [(']', ']')]) rest
    else if c = '-' ∧ first then readClass false inRange (ranges ++ [('-', '-')]) rest
    else if c = '-' ∧ !inRange then readClass false true ranges rest
    else if inRange then
      match extendRange? ranges c with
      | some ranges => readClass false false ranges rest
      | none => none
    else readClass false false (ranges ++ [(c, c)]) rest

theorem length_lt_of_readClass {first inRange : Bool} {ranges found : List (Char × Char)}
    {text rest : List Char} (h : readClass first inRange ranges text = some (found, rest)) :
    rest.length < text.length := by
  induction text generalizing first inRange ranges with
  | nil => simp [readClass] at h
  | cons c text ih =>
    unfold readClass at h
    simp only [List.length_cons]
    repeat' split at h
    all_goals first
      | (simp only [Option.some.injEq, Prod.mk.injEq] at h; rw [← h.2]; omega)
      | exact Nat.lt_succ_of_lt (ih h)
      | cases h

/-- A class, from after its bracket on. -/
def readWholeClass (text : List Char) : Option (Token × List Char) :=
  match text with
  | c :: rest =>
    if c = '!' ∨ c = '^' then
      (readClass true false [] rest).map fun (ranges, rest) => (.charClass true ranges, rest)
    else (readClass true false [] text).map fun (ranges, rest) => (.charClass false ranges, rest)
  | [] => none

theorem length_lt_of_readWholeClass {text rest : List Char} {token : Token}
    (h : readWholeClass text = some (token, rest)) : rest.length < text.length := by
  unfold readWholeClass at h
  split at h
  · next c tail =>
    split at h
    · simp only [Option.map_eq_some_iff, Prod.mk.injEq, Prod.exists] at h
      obtain ⟨_, _, hr, _, rfl⟩ := h
      have := length_lt_of_readClass hr
      simp only [List.length_cons]
      omega
    · simp only [Option.map_eq_some_iff, Prod.mk.injEq, Prod.exists] at h
      obtain ⟨_, _, hr, _, rfl⟩ := h
      exact length_lt_of_readClass hr
  · cases h

/-- Reads a pattern to its end. `previous` is the character before the text. -/
def readTokens (r : Reader) (previous : Option Char) (text : List Char) : Option (List Token) :=
  match text with
  | [] => if r.groups.isEmpty then some r.current else none
  | '?' :: rest => readTokens (r.push .any) (some '?') rest
  | '*' :: '*' :: rest =>
    let (r, taken) := r.stars previous rest
    if taken = 0 then readTokens r (some '*') rest else readTokens r (some '/') (rest.drop 1)
  | '*' :: rest => readTokens (r.push .anyRun) (some '*') rest
  | '[' :: rest =>
    match _h : readWholeClass rest with
    | some (token, rest) => readTokens (r.push token) (some ']') rest
    | none => none
  | '\x7b' :: rest => readTokens r.openGroup (some '\x7b') rest
  | '\x7d' :: rest =>
    match r.closeGroup? with
    | some r => readTokens r (some '\x7d') rest
    | none => none
  | ',' :: rest => readTokens r.comma (some ',') rest
  | '\\' :: c :: rest => readTokens (r.push (.literal c)) (some c) rest
  | ['\\'] => none
  | c :: rest => readTokens (r.push (.literal c)) (some c) rest
termination_by text.length
decreasing_by
  all_goals simp only [List.length_cons, List.length_drop]
  all_goals first
    | omega
    | exact Nat.lt_succ_of_lt (length_lt_of_readWholeClass ‹_›)

def parse? (pattern : String) : Option (List Token) :=
  readTokens {} none pattern.toList

end RLanguageHost.Glob
