import RLanguageHost.Text.Utf8

/-!
# Glob patterns

A pattern over file paths. `?` stands for any byte and `*` for any bytes, slashes included; `**`
between slashes stands for any number of directories; brackets hold a class of characters, and
braces hold alternatives.

Paths are strings of bytes, so a pattern is brought into a form over bytes, `Piece`, before it is
matched: a character of the pattern becomes its UTF-8 bytes, and a class becomes a set of single
bytes.
-/

namespace RLanguageHost.Glob

/-- A part of a pattern as it is written. -/
inductive Token where
  | literal (c : Char)
  /-- `?` -/
  | any
  /-- `*` -/
  | anyRun
  /-- `**` at the start: any directories, or none. -/
  | directoriesFirst
  /-- `**` between slashes: any directories, or none. -/
  | directoriesBetween
  /-- `**` at the end, after a slash: whatever is below. -/
  | contents
  /-- `[…]`, negated after `!` or `^`. -/
  | charClass (negated : Bool) (ranges : List (Char × Char))
  /-- `{…,…}` -/
  | alternatives (patterns : List (List Token))
  deriving Repr, Inhabited

/-- A set of bytes: the ranges, or all other bytes. -/
structure ByteSet where
  negated : Bool
  ranges : List (UInt8 × UInt8)
  deriving Repr, DecidableEq

def ByteSet.has (s : ByteSet) (b : UInt8) : Bool :=
  s.ranges.any (fun (low, high) => low ≤ b && b ≤ high) != s.negated

def ByteSet.single (b : UInt8) : ByteSet :=
  ⟨false, [(b, b)]⟩

def ByteSet.all : ByteSet :=
  ⟨true, []⟩

/-- A part of a pattern over bytes. -/
inductive Piece where
  /-- One byte of a set. -/
  | one (set : ByteSet)
  /-- Any bytes. -/
  | run
  /-- One of several patterns. -/
  | choice (patterns : List (List Piece))
  deriving Repr, Inhabited

def slash : Piece :=
  .one (.single 0x2F)

def literalPieces (c : Char) : List Piece :=
  (String.utf8EncodeChar c).map fun b => .one (.single b)

/-- The bytes of a range of a class. A character of several bytes lends each of them to the class;
the range lies between the last byte of its first character and the first byte of its last one. -/
def rangeBytes (range : Char × Char) : List (UInt8 × UInt8) :=
  let first := String.utf8EncodeChar range.1
  let last := String.utf8EncodeChar range.2
  if range.1 = range.2 then first.map fun b => (b, b)
  else
    match first.getLast?, last with
    | some low, high :: rest =>
      first.dropLast.map (fun b => (b, b)) ++ (low, high) :: rest.map fun b => (b, b)
    | _, _ => []

mutual

/-- A part of a pattern over bytes. Alternatives that match only the empty path do not count. -/
def Token.pieces : Token → List Piece
  | .literal c => literalPieces c
  | .any => [.one .all]
  | .anyRun => [.run]
  | .directoriesFirst => [.choice [[], [slash], [.run, slash]]]
  | .directoriesBetween => [.choice [[slash], [slash, .run, slash]]]
  | .contents => [slash, .run]
  | .charClass negated ranges => [.one ⟨negated, ranges.flatMap rangeBytes⟩]
  | .alternatives patterns =>
    match choices patterns with
    | [] => []
    | found => [.choice found]

/-- A pattern over bytes. -/
def pieces : List Token → List Piece
  | [] => []
  | token :: rest => token.pieces ++ pieces rest

/-- The alternatives that count. -/
def choices : List (List Token) → List (List Piece)
  | [] => []
  | pattern :: rest =>
    match pieces pattern with
    | [] => choices rest
    | found => found :: choices rest

end

end RLanguageHost.Glob
