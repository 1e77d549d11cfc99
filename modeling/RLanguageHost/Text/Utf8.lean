/-!
# UTF-8

Bytes are lists of `UInt8`, text is a list of characters. `front` looks at the start of a byte
string and tells three cases apart: a whole character, a sequence that no continuation can repair,
and a sequence that only needs more bytes.

Three readers are built from it. `decode?` accepts well-formed input only. `lossy` puts one U+FFFD
in the place of every malformed sequence. `drain` reads a stream that arrives in pieces: it hands
out what is already decided and keeps the undecided bytes at the end.
-/

namespace RLanguageHost

/-- A string of bytes, such as a file path or a read from a pipe. -/
abbrev Bytes := List UInt8

namespace Utf8

def encode (text : List Char) : Bytes :=
  text.flatMap String.utf8EncodeChar

/-- What a byte string starts with. -/
inductive Front where
  /-- There are no bytes. -/
  | empty
  /-- A whole character. -/
  | char (c : Char) (rest : Bytes)
  /-- A sequence that is wrong whatever follows; its longest acceptable beginning, or one byte, is
  taken off. -/
  | malformed (rest : Bytes)
  /-- The beginning of a character that the end of the bytes cuts. -/
  | cut
  deriving Repr, DecidableEq

/-- The length of the sequence that a first byte announces; zero for a byte that cannot be first. -/
def width (first : UInt8) : Nat :=
  if first < 0x80 then 1
  else if first < 0xC2 then 0
  else if first < 0xE0 then 2
  else if first < 0xF0 then 3
  else if first < 0xF5 then 4
  else 0

/-- Whether a byte may come third or fourth. -/
def isTail (b : UInt8) : Bool :=
  0x80 ≤ b && b ≤ 0xBF

/-- Whether a byte may come second. The narrower ranges keep out overlong forms, surrogates and
numbers above U+10FFFF. -/
def isSecond (first b : UInt8) : Bool :=
  (if first = 0xE0 then 0xA0 else if first = 0xF0 then 0x90 else 0x80) ≤ b &&
  b ≤ (if first = 0xED then 0x9F else if first = 0xF4 then 0x8F else 0xBF)

/-- The character of a two-byte sequence. -/
def scalar2 (a b : UInt8) : Char :=
  Char.ofNat (a.toNat % 32 * 64 + b.toNat % 64)

/-- The character of a three-byte sequence. -/
def scalar3 (a b c : UInt8) : Char :=
  Char.ofNat (a.toNat % 16 * 4096 + b.toNat % 64 * 64 + c.toNat % 64)

/-- The character of a four-byte sequence. -/
def scalar4 (a b c d : UInt8) : Char :=
  Char.ofNat (a.toNat % 8 * 262144 + b.toNat % 64 * 4096 + c.toNat % 64 * 64 + d.toNat % 64)

def front : Bytes → Front
  | [] => .empty
  | a :: rest =>
    if width a = 0 then .malformed rest
    else if width a = 1 then .char (Char.ofNat a.toNat) rest
    else
      match rest with
      | [] => .cut
      | b :: rest₁ =>
        if !isSecond a b then .malformed rest
        else if width a = 2 then .char (scalar2 a b) rest₁
        else
          match rest₁ with
          | [] => .cut
          | c :: rest₂ =>
            if !isTail c then .malformed rest₁
            else if width a = 3 then .char (scalar3 a b c) rest₂
            else
              match rest₂ with
              | [] => .cut
              | d :: rest₃ =>
                if !isTail d then .malformed rest₂ else .char (scalar4 a b c d) rest₃

theorem length_lt_of_front_char {bs rest : Bytes} {c : Char} (h : front bs = .char c rest) :
    rest.length < bs.length := by
  unfold front at h
  split at h
  · cases h
  · repeat' split at h
    all_goals cases h
    all_goals simp only [List.length_cons]; omega

theorem length_lt_of_front_malformed {bs rest : Bytes} (h : front bs = .malformed rest) :
    rest.length < bs.length := by
  unfold front at h
  split at h
  · cases h
  · repeat' split at h
    all_goals cases h
    all_goals simp only [List.length_cons]; omega

/-- The character that stands for bytes that encode none. -/
def replacement : Char := '\uFFFD'

/-- The text of a well-formed byte string. -/
def decode? (bs : Bytes) : Option (List Char) :=
  match _h : front bs with
  | .empty => some []
  | .char c rest => (decode? rest).map (c :: ·)
  | .malformed _ => none
  | .cut => none
termination_by bs.length
decreasing_by exact length_lt_of_front_char ‹_›

/-- The text of any byte string: each malformed sequence, a cut one at the end included, becomes
one U+FFFD. -/
def lossy (bs : Bytes) : List Char :=
  match _h : front bs with
  | .empty => []
  | .char c rest => c :: lossy rest
  | .malformed rest => replacement :: lossy rest
  | .cut => [replacement]
termination_by bs.length
decreasing_by
  · exact length_lt_of_front_char ‹_›
  · exact length_lt_of_front_malformed ‹_›

/-- The longest well-formed beginning of a byte string, decoded, and the bytes after it. -/
def wellFormedPrefix (bs : Bytes) : List Char × Bytes :=
  match _h : front bs with
  | .char c rest =>
    let (text, left) := wellFormedPrefix rest
    (c :: text, left)
  | _ => ([], bs)
termination_by bs.length
decreasing_by exact length_lt_of_front_char ‹_›

/-- Where the first malformed sequence of a byte string starts, and its length; a sequence that the
end of the bytes cuts has none. -/
def fault? (bs : Bytes) : Option (Nat × Option Nat) :=
  let rest := (wellFormedPrefix bs).2
  let index := bs.length - rest.length
  match front rest with
  | .malformed tail => some (index, some (rest.length - tail.length))
  | .cut => some (index, none)
  | _ => none

theorem length_wellFormedPrefix_le (bs : Bytes) :
    (wellFormedPrefix bs).1.length + (wellFormedPrefix bs).2.length ≤ bs.length := by
  fun_induction wellFormedPrefix bs with
  | case1 bs c rest h text left hl ih =>
    have := length_lt_of_front_char h
    simp only [hl] at ih
    simp only [List.length_cons]
    omega
  | case2 bs h => simp

/-- The next piece of text that a buffer of read bytes holds: its longest well-formed beginning, or
one U+FFFD for a malformed sequence at its start. There is none while the buffer is empty or holds
only the beginning of a character. -/
def next (buffer : Bytes) : Option (List Char × Bytes) :=
  match wellFormedPrefix buffer with
  | (c :: text, rest) => some (c :: text, rest)
  | ([], _) =>
    match front buffer with
    | .malformed rest => some ([replacement], rest)
    | _ => none

theorem length_lt_of_next {buffer rest : Bytes} {text : List Char}
    (h : next buffer = some (text, rest)) : rest.length < buffer.length := by
  have hle := length_wellFormedPrefix_le buffer
  unfold next at h
  split at h
  · next heq =>
    simp only [Option.some.injEq, Prod.mk.injEq] at h
    simp only [heq, List.length_cons] at hle
    rw [← h.2]
    omega
  · split at h
    · next hf =>
      simp only [Option.some.injEq, Prod.mk.injEq] at h
      exact h.2 ▸ length_lt_of_front_malformed hf
    · cases h

/-- All pieces of text that a buffer of read bytes holds, in order, and the bytes that are kept for
the next read. -/
def drain (buffer : Bytes) : List (List Char) × Bytes :=
  match _h : next buffer with
  | none => ([], buffer)
  | some (text, rest) =>
    let (more, left) := drain rest
    (text :: more, left)
termination_by buffer.length
decreasing_by exact length_lt_of_next ‹_›

end Utf8

def bytesOf (s : String) : Bytes :=
  Utf8.encode s.toList

end RLanguageHost
