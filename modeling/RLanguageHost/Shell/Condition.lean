import RLanguageHost.Shell.Arithmetic
import RLanguageHost.Shell.Facts

/-!
# Shell conditions

The conditions of `test` and `[`. Whether a word is an operator depends on the words after it, and a
condition of three or four words is first looked at as a whole.
-/

namespace RLanguageHost.Shell.Condition

inductive Fault where
  | unexpectedOperator (word : String)
  | argumentExpected (word : String)
  | closingExpected
  | notNumber (word : String)
  deriving Repr, DecidableEq, Inhabited

def Fault.message : Fault → String
  | .unexpectedOperator word => word ++ ": unexpected operator"
  | .argumentExpected word => word ++ ": argument expected"
  | .closingExpected => "closing paren expected"
  | .notNumber word => "Illegal number: " ++ word

/-- The part that a word can play. -/
inductive Role where
  /-- There is no word. -/
  | nothing
  | operand
  | unary (condition : Char)
  | binary (op : String)
  | not
  | and
  | or
  | opening
  | closing
  deriving Repr, DecidableEq, Inhabited

/-- The operators between two words. -/
def binaryOperators : List String :=
  ["=", "==", "!=", "<", ">", "-eq", "-ne", "-gt", "-ge", "-lt", "-le", "-nt", "-ot", "-ef"]

def roleOf (word : String) : Role :=
  if binaryOperators.contains word then .binary word
  else
    match word with
    | "!" => .not
    | "-a" => .and
    | "-o" => .or
    | "(" => .opening
    | ")" => .closing
    | _ =>
      match word.toList with
      | ['-', c] => if "rwxefdcbpugkstznhLOGS".toList.contains c then .unary c else .operand
      | _ => .operand

/-- Whether a word in front of some words is an operand although it has the form of a condition. -/
def standsAlone : List String → Bool
  | [] => true
  | [_] => false
  | word :: _ =>
    match roleOf word with
    | .binary _ => true
    | _ => false

def role : List String → Role
  | [] => .nothing
  | word :: rest =>
    match roleOf word with
    | .unary c => if standsAlone rest then .operand else .unary c
    | .opening => if rest.isEmpty then .operand else .opening
    | r => r

/-- Whether a condition on two words holds. -/
def compare (facts : Facts) (op a b : String) : Except Fault Bool := do
  let number (s : String) : Except Fault Int :=
    match Arithmetic.decimal? s with
    | some n =>
      if -9223372036854775808 ≤ n ∧ n ≤ 9223372036854775807 then .ok n else .error (.notNumber s)
    | none => .error (.notNumber s)
  match op with
  | "=" | "==" => return a = b
  | "!=" => return a ≠ b
  | "<" => return decide (a < b)
  | ">" => return decide (b < a)
  | "-eq" => return (← number a) = (← number b)
  | "-ne" => return (← number a) ≠ (← number b)
  | "-lt" => return decide ((← number a) < (← number b))
  | "-le" => return decide ((← number a) ≤ (← number b))
  | "-gt" => return decide ((← number b) < (← number a))
  | "-ge" => return decide ((← number b) ≤ (← number a))
  | "-ef" => return facts.isSame a b
  -- a file that is there counts as neither newer nor older than another file
  | _ => return false

mutual

/-- Reads conditions of which one has to hold. Here and below the words start with the one in some
role, and the words that are left start with the last one that was read. -/
def either (facts : Facts) :
    (fuel : Nat) → Role → List String → Except Fault (Bool × List String)
  | 0, _, words => .ok (false, words)
  | fuel + 1, r, words => do
    let (a, words) ← all facts fuel r words
    if role (words.drop 1) = .or then
      let (b, words) ← either facts fuel (role (words.drop 2)) (words.drop 2)
      return (a || b, words)
    else return (a, words)

/-- Reads conditions that have to hold together. -/
def all (facts : Facts) :
    (fuel : Nat) → Role → List String → Except Fault (Bool × List String)
  | 0, _, words => .ok (false, words)
  | fuel + 1, r, words => do
    let (a, words) ← negated facts fuel r words
    if role (words.drop 1) = .and then
      let (b, words) ← all facts fuel (role (words.drop 2)) (words.drop 2)
      return (a && b, words)
    else return (a, words)

def negated (facts : Facts) :
    (fuel : Nat) → Role → List String → Except Fault (Bool × List String)
  | 0, _, words => .ok (false, words)
  | fuel + 1, r, words =>
    if r = .not then do
      let next := role (words.drop 1)
      let (a, words) ← negated facts fuel next (if next = .nothing then words else words.drop 1)
      return (!a, words)
    else single facts fuel r words

def single (facts : Facts) :
    (fuel : Nat) → Role → List String → Except Fault (Bool × List String)
  | 0, _, words => .ok (false, words)
  | fuel + 1, r, words =>
    match r, words with
    | .nothing, _ => .ok (false, words)
    | .opening, _ => do
      let words := words.drop 1
      let next := role words
      if next = .closing then return (false, words)
      let (a, words) ← either facts fuel next words
      if role (words.drop 1) = .closing then return (a, words.drop 1)
      else .error .closingExpected
    | .unary c, op :: rest =>
      match rest with
      | [] => .error (.argumentExpected op)
      | word :: _ =>
        .ok (if c = 'z' then word = "" else if c = 'n' then word ≠ ""
          else if c = 't' then false else facts.holds c word, rest)
    | _, _ =>
      match role (words.drop 1), words with
      | .binary op, a :: _ :: b :: rest => do return (← compare facts op a b, b :: rest)
      | .binary op, _ => .error (.argumentExpected op)
      | _, _ => .ok (words.head?.any (· ≠ ""), words)

end

/-- A condition that is looked at as a whole: whether it is negated, and the words that are left
with the role of the first. -/
structure Outline where
  isNegated : Bool := false
  role : Role
  words : List String
  deriving Repr, Inhabited

/-- The outline of three words: an operator between two words counts before anything else. -/
def Outline.ofThree (a b c : String) : Outline :=
  match roleOf b with
  | .binary _ => { role := .operand, words := [a, b, c] }
  | _ =>
    if a = "(" && c = ")" then { role := Condition.role [b], words := [b] }
    else if a = "!" then { isNegated := true, role := Condition.role [b, c], words := [b, c] }
    else { role := Condition.role [a, b, c], words := [a, b, c] }

def Outline.ofWords (words : List String) : Outline :=
  match words with
  | [a, b, c] => .ofThree a b c
  | [a, b, c, d] =>
    if a = "(" && d = ")" then { role := Condition.role [b, c], words := [b, c] }
    else if a = "!" then { Outline.ofThree b c d with isNegated := true }
    else { role := Condition.role words, words }
  | _ => { role := Condition.role words, words }

def holds (facts : Facts) (words : List String) : Except Fault Bool := do
  let outline := Outline.ofWords words
  match ← either facts (5 * words.length + 5) outline.role outline.words with
  | (_, word :: _ :: _) => .error (.unexpectedOperator word)
  | (result, _) => return result != outline.isNegated

end RLanguageHost.Shell.Condition
