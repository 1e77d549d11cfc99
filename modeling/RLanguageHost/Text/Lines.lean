import RLanguageHost.Text.Utf8

/-!
# Lines of bytes

A line ends with a newline, which belongs to it; the last line may lack one. A reader that gets a
stream in blocks passes on the lines that are complete and keeps the beginning of the next one.

A text that ends where a line does can be read apart from what follows it (`EndsLine.all_append`).
-/

namespace RLanguageHost.Lines

def newline : UInt8 := 0x0A

/-- The complete lines of a text whose first bytes are given in reverse, and what follows them. -/
def splitFrom (begun : Bytes) : Bytes → List Bytes × Bytes
  | [] => ([], begun.reverse)
  | b :: rest =>
    if b = newline then
      let (lines, last) := splitFrom [] rest
      ((b :: begun).reverse :: lines, last)
    else splitFrom (b :: begun) rest

/-- The complete lines of a text, and what follows them. -/
def split (text : Bytes) : List Bytes × Bytes :=
  splitFrom [] text

/-- The lines of a text, the last of which may lack a newline. -/
def all (text : Bytes) : List Bytes :=
  let (lines, last) := split text
  if last.isEmpty then lines else lines ++ [last]

/-! ## Texts that end where a line does -/

/-- The text ends where a line does, or is empty. -/
def EndsLine (text : Bytes) : Prop :=
  text = [] ∨ text.getLast? = some newline

instance (text : Bytes) : Decidable (EndsLine text) :=
  inferInstanceAs (Decidable (_ ∨ _))

theorem splitFrom_append (begun text rest : Bytes) :
    splitFrom begun (text ++ rest) =
      ((splitFrom begun text).1 ++ (splitFrom (splitFrom begun text).2.reverse rest).1,
        (splitFrom (splitFrom begun text).2.reverse rest).2) := by
  induction text generalizing begun with
  | nil => simp [splitFrom]
  | cons b text ih =>
      rw [List.cons_append, splitFrom, splitFrom]
      split
      · rw [ih]
        rfl
      · exact ih (b :: begun)

theorem splitFrom_of_not_mem {line : Bytes} (whole : newline ∉ line) (begun rest : Bytes) :
    splitFrom begun (line ++ newline :: rest) =
      ((begun.reverse ++ line ++ [newline]) :: (split rest).1, (split rest).2) := by
  induction line generalizing begun with
  | nil => simp [splitFrom, split]
  | cons b line ih =>
      have other : b ≠ newline := fun same => whole (same ▸ List.mem_cons_self)
      rw [List.cons_append, splitFrom, if_neg other, ih fun member => whole (.tail b member)]
      simp

/-- Nothing is left over of a text that ends where a line does. -/
theorem splitFrom_snd_of_getLast? {text : Bytes} (ends : text.getLast? = some newline)
    (begun : Bytes) : (splitFrom begun text).2 = [] := by
  obtain ⟨front, rfl⟩ := List.getLast?_eq_some_iff.mp ends
  rw [splitFrom_append]
  simp [splitFrom]

theorem EndsLine.split_snd {text : Bytes} (ends : EndsLine text) : (split text).2 = [] := by
  rcases ends with rfl | ends
  · rfl
  · exact splitFrom_snd_of_getLast? ends []

/-- The lines are the complete ones and what is left over, if anything is. -/
theorem all_eq (text : Bytes) :
    all text = (split text).1 ++ if (split text).2.isEmpty then [] else [(split text).2] := by
  rw [all]
  dsimp only
  split
  · rw [List.append_nil]
  · rfl

theorem EndsLine.all_append {text : Bytes} (ends : EndsLine text) (rest : Bytes) :
    all (text ++ rest) = all text ++ all rest := by
  have whole : (splitFrom [] text).2 = [] := ends.split_snd
  have apart : split (text ++ rest) = ((split text).1 ++ (split rest).1, (split rest).2) := by
    rw [split, splitFrom_append, whole]
    rfl
  rw [all_eq (text ++ rest), all_eq text, all_eq rest, apart, ends.split_snd]
  simp

/-- A complete line is the first one. -/
theorem all_line_append {line : Bytes} (whole : newline ∉ line) (rest : Bytes) :
    all (line ++ newline :: rest) = (line ++ [newline]) :: all rest := by
  have apart : split (line ++ newline :: rest) =
      ((line ++ [newline]) :: (split rest).1, (split rest).2) := splitFrom_of_not_mem whole [] rest
  rw [all_eq (line ++ newline :: rest), all_eq rest, apart, List.cons_append]

/-! ## Readers -/

/-- A reader of lines, with the beginning of the next one. -/
structure Reader where
  begun : Bytes := []
  deriving Repr, DecidableEq, Inhabited

namespace Reader

def feed (r : Reader) (block : Bytes) : List Bytes × Reader :=
  let (lines, begun) := split (r.begun ++ block)
  (lines, ⟨begun⟩)

/-- The line that the end of the stream completes, if one has begun. -/
def finish (r : Reader) : List Bytes :=
  if r.begun.isEmpty then [] else [r.begun]

end Reader

/-- The text of a line, without the carriage returns and newlines at its end. -/
def text (line : Bytes) : List Char :=
  ((Utf8.lossy line).reverse.dropWhile fun c => c = '\r' || c = '\n').reverse

end RLanguageHost.Lines
