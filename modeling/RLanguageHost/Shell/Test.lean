import RLanguageHost.Shell.Expansion
import RLanguageHost.Shell.Facts
import RLanguageHost.Text.Regex.Reader

/-!
# Conditions between brackets

The conditions of the larger shell that are no command with arguments: words in them are not split,
texts are compared with patterns and regular expressions, and numbers are expressions.
-/

namespace RLanguageHost.Shell

/-- The text of a regular expression, in which what was quoted stands for itself. -/
def Field.regexText (f : Field) : String :=
  String.ofList (f.flatMap fun (c, quoted) =>
    if quoted && ".[]*^$+?()|\\\x7b\x7d".toList.contains c then ['\\', c] else [c])

/-- The elements of the array that a match leaves behind: all of it, then its groups. -/
def matchElements (groupCount : Nat) (a b : Regex.Progress) : Elements :=
  .indexed ((0, textOf (b.since a)) :: (List.range groupCount).map fun i =>
    (i + 1, textOf ((b.groups.lookup (i + 1)).getD [])))

namespace Test

/-- A fault of a condition: the status is two where the expression cannot be read. -/
inductive Answer where
  | holds (result : Bool)
  | unreadable
  deriving Repr, DecidableEq, Inhabited

def tracedText (t : String) : String :=
  if t = "" then "\x27\x27" else t

/-- A pattern as a trace of a condition shows it: what was quoted in it is guarded. -/
def tracedPattern (f : Field) : String :=
  tracedText (String.ofList (f.flatMap fun (c, quoted) => if quoted then ['\\', c] else [c]))

/-- A state that remembers what a trace shows of a condition. -/
def traced (s : State) (inverted : Bool) (text : String) : State :=
  if s.options.traces then
    { s with notes := ("[[ " ++ (if inverted then "! " else "") ++ text ++ " ]]") :: s.notes }
  else s

/-- Whether a condition holds; `known` answers about files, variables and options, and `inverted`
says whether the opposite is asked for. -/
def evaluate (known : State → Facts) (inverted : Bool) (s : State) :
    Test → Except Stop (Answer × State)
  | .word w => unary "-n" w
  | .unary op w => unary op w
  | .binary op a b => do
    let (left, s) ← Expansion.text s a
    let folded (t : String) : String := if s.options.ignoresCase then t.map Char.toLower else t
    let shown (s : State) (right : String) : State :=
      traced s inverted (tracedText left ++ " " ++ op ++ " " ++ right)
    match op with
    | "=" | "==" | "!=" =>
      let (pattern, s) ← Expansion.pattern s b
      let s := shown s (tracedPattern pattern)
      let pattern : Field :=
        if s.options.ignoresCase then pattern.map fun (c, q) => (c.toLower, q) else pattern
      return (.holds (pattern.isMatch (folded left).toList != (op = "!=")), s)
    | "=~" =>
      let (pattern, s) ← Expansion.pattern s b
      let s := shown s (tracedPattern pattern)
      match Regex.ofText? { ignoresCase := s.options.ignoresCase } pattern.regexText with
      | none => return (.unreadable, s)
      | some r =>
        match r.findIn? (rawOf left) with
        | some (p, q) =>
          return (.holds true,
            s.assignElements "BASH_REMATCH" (matchElements (r.groupCount) p q))
        | none => return (.holds false, s.assignElements "BASH_REMATCH" (.indexed []))
    | _ =>
      let (right, s) ← Expansion.text s b
      let s := shown s (tracedText right)
      match op with
      | "<" => return (.holds (decide (left < right)), s)
      | ">" => return (.holds (decide (right < left)), s)
      | "-nt" | "-ot" | "-ef" => return (.holds ((known s).related op left right), s)
      | _ =>
        let (x, s) ← s.number left
        let (y, s) ← s.number right
        let result :=
          match op with
          | "-eq" => decide (x = y)
          | "-ne" => decide (x ≠ y)
          | "-lt" => decide (x < y)
          | "-le" => decide (x ≤ y)
          | "-gt" => decide (y < x)
          | _ => decide (y ≤ x)
        return (.holds result, s)
  | .negation t => do
    match ← evaluate known (!inverted) s t with
    | (.holds r, s) => return (.holds !r, s)
    | other => return other
  | .both a b => do
    match ← evaluate known false s a with
    | (.holds true, s) => evaluate known false s b
    | other => return other
  | .either a b => do
    match ← evaluate known false s a with
    | (.holds false, s) => evaluate known false s b
    | other => return other
where
  /-- Whether what an operator asks for holds of a word. -/
  unary (op : String) (w : Word) : Except Stop (Answer × State) := do
    let (text, s) ← Expansion.text s w
    let s := traced s inverted (op ++ " " ++ tracedText text)
    let result :=
      match op.toList.getLast? with
      | some 'z' => decide (text = "")
      | some 'n' => decide (text ≠ "")
      | some c => (known s).holds c text
      | none => false
    return (.holds result, s)

end Test

end RLanguageHost.Shell
