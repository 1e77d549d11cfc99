import RLanguageHost.Channel.Basic
import RLanguageHost.Decimal.Word
import RLanguageHost.Text.Blank

/-!
# Frames

Messages travel in frames. A frame is a header, an empty line and a body; the header's line
`Content-Length` gives the length of the body in bytes of UTF-8. Lines of the header that say
something else do not matter, nor do letter case and white space around name and value.

`parse` takes one frame off the start of a text. A text that ends too early is told apart from one
that no continuation makes good.
-/

namespace RLanguageHost.Frame

def lengthName : String := "Content-Length"

/-- What stands between header and body. -/
def boundary : List Char := ['\r', '\n', '\r', '\n']

/-- The largest body that is accepted, in bytes. -/
def maxLength : Nat := 16 * 1024 * 1024

/-- The number of bytes that a text takes in UTF-8. -/
def byteLength (text : List Char) : Nat :=
  text.foldl (fun n c => n + c.utf8Size) 0

def header (length : Nat) : List Char :=
  (lengthName ++ ": " ++ toString length).toList

def frame (body : List Char) : List Char :=
  header (byteLength body) ++ boundary ++ body

/-- Why frames cannot be read, or not be sent. -/
inductive Error where
  | channel (error : Channel.Error)
  | invalidFormat (reason : String)
  /-- The header gives a length that is no number. -/
  | invalidLength (value : String)
  | tooLarge (size limit : Nat)
  | closed
  deriving Repr, DecidableEq

namespace Error

def message : Error → String
  | .channel error => "Transport error: " ++ error.message
  | .invalidFormat reason => "Invalid LSP message format: " ++ reason
  | .invalidLength value => "Invalid content length: " ++ value
  | .tooLarge size limit =>
    "Message too large: " ++ toString size ++ " bytes (max: " ++ toString limit ++ ")"
  | .closed => "Transport closed"

/-- The header does not give a length. -/
def noLength : Error :=
  .invalidFormat "Missing Content-Length header"

/-- The body would end within a character. -/
def splitCharacter : Error :=
  .invalidFormat "Content-Length does not end on a character boundary"

end Error

/-- The lines of a text. A line ends with a newline, and a carriage return before that newline is
not part of it. Nothing follows the last newline. -/
def lines (text : List Char) : List (List Char) :=
  go [] text
where
  /-- Reads on, with the current line in reverse. -/
  go (line : List Char) : List Char → List (List Char)
    | [] => if line.isEmpty then [] else [line.reverse]
    | c :: rest =>
      if c = '\n' then
        (match line with
          | '\r' :: line => line.reverse
          | line => line.reverse) :: go [] rest
      else go (c :: line) rest

/-- The parts of a line before and after its first colon. -/
def splitColon (line : List Char) : Option (List Char × List Char) :=
  match line.dropWhile (· ≠ ':') with
  | [] => none
  | _ :: value => some (line.takeWhile (· ≠ ':'), value)

/-- Whether two texts are equal when the case of ASCII letters is ignored. -/
def sameIgnoringCase (a b : List Char) : Bool :=
  a.map Char.toLower = b.map Char.toLower

/-- The value that a line gives for the length, if it is about the length. -/
def lengthValue? (line : List Char) : Option (List Char) :=
  match splitColon line with
  | none => none
  | some (name, value) =>
    if sameIgnoringCase (Text.trim name) lengthName.toList then some (Text.trim value) else none

def lengthOf (value : List Char) : Except Error Nat :=
  match Decimal.word? value with
  | none => .error (.invalidLength (String.ofList value))
  | some n => if maxLength < n then .error (.tooLarge n maxLength) else .ok n

/-- The length that a header gives. The first line about the length counts. -/
def contentLength (header : List Char) : Except Error Nat :=
  match (lines header).findSome? lengthValue? with
  | none => .error .noLength
  | some value => lengthOf value

/-- The parts of a text before and after its first empty line. -/
def splitHeader (text : List Char) : Option (List Char × List Char) :=
  go [] text
where
  /-- Reads on, with what has been read in reverse. -/
  go (header : List Char) : List Char → Option (List Char × List Char)
    | [] => none
    | '\r' :: '\n' :: '\r' :: '\n' :: body => some (header.reverse, body)
    | c :: rest => go (c :: header) rest

/-- What comes of taking so many bytes off the start of a text. -/
inductive Taken where
  | all (text rest : List Char)
  /-- The text is shorter. -/
  | short
  /-- The last byte lies within a character. -/
  | split
  deriving Repr, DecidableEq

/-- Takes so many bytes off the start of a text. -/
def takeBytes (n : Nat) (text : List Char) : Taken :=
  go [] n text
where
  /-- Reads on, with what has been taken in reverse. -/
  go (taken : List Char) (n : Nat) : List Char → Taken
    | [] => if n = 0 then .all taken.reverse [] else .short
    | c :: rest =>
      if n = 0 then .all taken.reverse (c :: rest)
      else if n < c.utf8Size then .split
      else go (c :: taken) (n - c.utf8Size) rest

/-- What a text starts with. -/
inductive Parsed where
  | message (body rest : List Char)
  /-- More text is needed to tell. -/
  | incomplete
  | bad (error : Error)
  deriving Repr, DecidableEq

/-- Takes one frame off the start of a text. A body that would end within a character is an error
only when there is enough text. -/
def parse (text : List Char) : Parsed :=
  match splitHeader text with
  | none => .incomplete
  | some (header, rest) =>
    match contentLength header with
    | .error e => .bad e
    | .ok n =>
      match takeBytes n rest with
      | .all body rest => .message body rest
      | .short => .incomplete
      | .split => .bad .splitCharacter

theorem length_lt_of_splitHeader_go {read text header rest : List Char}
    (h : splitHeader.go read text = some (header, rest)) : rest.length < text.length := by
  fun_induction splitHeader.go read text with
  | case1 => cases h
  | case2 read body =>
    simp only [Option.some.injEq, Prod.mk.injEq] at h
    rw [← h.2]
    simp only [List.length_cons]
    omega
  | case3 read c tail _ ih =>
    have := ih h
    simp only [List.length_cons]
    omega

theorem length_le_of_takeBytes_go {taken text body rest : List Char} {n : Nat}
    (h : takeBytes.go taken n text = .all body rest) : rest.length ≤ text.length := by
  fun_induction takeBytes.go taken n text with
  | case1 => cases h; simp
  | case2 => cases h
  | case3 => cases h; simp
  | case4 => cases h
  | case5 taken n c tail _ _ ih =>
    have := ih h
    simp only [List.length_cons]
    omega

/-- What follows a frame is shorter than the text. -/
theorem length_lt_of_parse {text body rest : List Char} (h : parse text = .message body rest) :
    rest.length < text.length := by
  unfold parse at h
  split at h
  · cases h
  · next header tail hs =>
    split at h
    · cases h
    · split at h
      · next ht =>
        cases h
        exact Nat.lt_of_le_of_lt (length_le_of_takeBytes_go ht) (length_lt_of_splitHeader_go hs)
      · cases h
      · cases h

end RLanguageHost.Frame
