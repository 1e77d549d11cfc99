import RLanguageHost.Shell.Arithmetic
import RLanguageHost.Shell.Facts
import RLanguageHost.Shell.Format

/-!
# Conditions of the larger shell

The conditions of `test` and `[` as the larger shell and the program of that name read them. Up to
four words are looked at by their number; more words are read from the left.
-/

namespace RLanguageHost.Shell.Criterion

/-- Why words are no condition. -/
inductive Fault where
  | unaryExpected (word : String)
  | binaryExpected (word : String)
  | argumentExpected (after : String)
  | closingExpected (found : Option String)
  | notNumber (word : String)
  | surplus (word : String)
  deriving Repr, DecidableEq, Inhabited

def Fault.message (style : Format.Style) (fault : Fault) : String :=
  let quoted (s : String) : String := "\x27" ++ s ++ "\x27"
  match style, fault with
  | .program, .unaryExpected w => quoted w ++ ": unary operator expected"
  | _, .unaryExpected w => w ++ ": unary operator expected"
  | .program, .binaryExpected w => quoted w ++ ": binary operator expected"
  | _, .binaryExpected w => w ++ ": binary operator expected"
  | .program, .argumentExpected w => "missing argument after " ++ quoted w
  | _, .argumentExpected _ => "argument expected"
  | .program, .closingExpected none => quoted ")" ++ " expected"
  | _, .closingExpected none => "\x60)\x27 expected"
  | .program, .closingExpected (some w) => quoted ")" ++ " expected, found " ++ w
  | _, .closingExpected (some w) => "\x60)\x27 expected, found " ++ w
  | .program, .notNumber w => "invalid integer " ++ quoted w
  | _, .notNumber w => w ++ ": integer expression expected"
  | .program, .surplus w => "extra argument " ++ quoted w
  | _, .surplus w =>
    if w.startsWith "-" then "syntax error: \x60" ++ w ++ "\x27 unexpected"
    else "too many arguments"

/-- Whether a word stands between two words. -/
def isBinary (word : String) : Bool :=
  ["=", "==", "!=", "<", ">", "-eq", "-ne", "-gt", "-ge", "-lt", "-le", "-nt", "-ot",
    "-ef"].contains word

/-- Whether a word stands in front of a word. -/
def isUnary (word : String) : Bool :=
  match word.toList with
  | ['-', c] => "abcdefghknoprstuvwxzGLNORS".toList.contains c
  | _ => false

def single (facts : Facts) (op word : String) : Bool :=
  match op.toList.getLast? with
  | some 'z' => word = ""
  | some 'n' => word ≠ ""
  | some c => facts.holds c word
  | none => false

def numberOf (word : String) : Except Fault Int :=
  match Arithmetic.decimal? word with
  | some n =>
    if -9223372036854775808 ≤ n ∧ n ≤ 9223372036854775807 then .ok n else .error (.notNumber word)
  | none => .error (.notNumber word)

/-- Whether a condition on two words holds. -/
def compare (facts : Facts) (op a b : String) : Except Fault Bool := do
  match op with
  | "=" | "==" => return a = b
  | "!=" => return a ≠ b
  | "<" => return decide (a < b)
  | ">" => return decide (b < a)
  | "-nt" | "-ot" | "-ef" => return facts.related op a b
  | _ =>
    let x ← numberOf a
    let y ← numberOf b
    match op with
    | "-eq" => return x = y
    | "-ne" => return x ≠ y
    | "-lt" => return decide (x < y)
    | "-le" => return decide (x ≤ y)
    | "-gt" => return decide (y < x)
    | _ => return decide (y ≤ x)

/-- Whether two words are a condition that holds. -/
def two (facts : Facts) (a b : String) : Except Fault Bool :=
  if a = "!" then .ok (b = "")
  else if isUnary a then .ok (single facts a b)
  else .error (.unaryExpected a)

/-- Whether three words are a condition that holds. -/
def three (facts : Facts) (a b c : String) : Except Fault Bool :=
  if isBinary b then compare facts b a c
  else if b = "-a" then .ok (a ≠ "" && c ≠ "")
  else if b = "-o" then .ok (a ≠ "" || c ≠ "")
  else if a = "!" then (two facts b c).map (!·)
  else if a = "(" && c = ")" then .ok (b ≠ "")
  else .error (.binaryExpected b)

mutual

/-- Reads conditions of which one has to hold, and gives the words that follow. -/
def either (facts : Facts) (last : String) :
    (fuel : Nat) → List String → Except Fault (Bool × List String)
  | 0, words => .ok (false, words)
  | fuel + 1, words => do
    let (a, rest) ← all facts last fuel words
    match rest with
    | "-o" :: rest =>
      let (b, rest) ← either facts last fuel rest
      return (a || b, rest)
    | _ => return (a, rest)

/-- Reads conditions that have to hold together. -/
def all (facts : Facts) (last : String) :
    (fuel : Nat) → List String → Except Fault (Bool × List String)
  | 0, words => .ok (false, words)
  | fuel + 1, words => do
    let (a, rest) ← term facts last fuel words
    match rest with
    | "-a" :: rest =>
      let (b, rest) ← all facts last fuel rest
      return (a && b, rest)
    | _ => return (a, rest)

def term (facts : Facts) (last : String) :
    (fuel : Nat) → List String → Except Fault (Bool × List String)
  | 0, words => .ok (false, words)
  | _, [] => .error (.argumentExpected last)
  | fuel + 1, a :: rest =>
    if a = "!" then do
      let (r, rest) ← term facts last fuel rest
      return (!r, rest)
    else if a = "(" then do
      if rest.isEmpty then throw (.argumentExpected last)
      let (r, rest) ← either facts last fuel rest
      match rest with
      | ")" :: rest => return (r, rest)
      | w :: _ => throw (.closingExpected (some w))
      | [] => throw (.closingExpected none)
    else
      match rest with
      | op :: b :: rest' =>
        if isBinary op then return (← compare facts op a b, rest')
        else if isUnary a then return (single facts a op, b :: rest')
        else return (a ≠ "", rest)
      | [b] => if isUnary a then return (single facts a b, []) else return (a ≠ "", rest)
      | [] => return (a ≠ "", [])

end

/-- Whether words are a condition that holds, read from the left. -/
def whole (facts : Facts) (words : List String) : Except Fault Bool := do
  match ← either facts (words.getLast?.getD "") (5 * words.length + 5) words with
  | (r, []) => return r
  | (_, w :: _) => throw (.surplus w)

def holds (facts : Facts) (words : List String) : Except Fault Bool :=
  match words with
  | [] => .ok false
  | [a] => .ok (a ≠ "")
  | [a, b] => two facts a b
  | [a, b, c] => three facts a b c
  | [a, b, c, d] =>
    if a = "!" then (three facts b c d).map (!·)
    else if a = "(" && d = ")" then two facts b c
    else whole facts words
  | _ => whole facts words

end RLanguageHost.Shell.Criterion
