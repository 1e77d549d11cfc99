import RLanguageHost.Decimal.Word
import RLanguageHost.Log.Pattern
import RLanguageHost.Text.Alphanumeric
import RLanguageHost.Text.Blank

/-!
# Directives of log filters

A directive lets entries through up to a level: those of all targets whose names start with some
text, those with a field, or those made within a span. A span is told by its name, by a field and by
the value of a field. A directive without a level lets everything through.

The white space around a directive does not count for where its words are, but they are then taken
from the text with that white space: white space at the start moves all words.
-/

namespace RLanguageHost.Log

/-! ## Levels -/

/-- How important an entry of the log is. -/
inductive Level where
  | error
  | warn
  | info
  | debug
  | trace
  deriving Repr, DecidableEq, Inhabited

namespace Level

/-- The place of a level, the most important one first. -/
def rank : Level → Nat
  | .error => 1
  | .warn => 2
  | .info => 3
  | .debug => 4
  | .trace => 5

/-- The name of a level, as the log shows it. -/
def name : Level → String
  | .error => "ERROR"
  | .warn => "WARN"
  | .info => "INFO"
  | .debug => "DEBUG"
  | .trace => "TRACE"

def all : List Level :=
  [.error, .warn, .info, .debug, .trace]

/-- How much a word lets through: the rank of the last level, 0 for nothing. A word is the name of a
level, in letters of either case, `off`, or a number. -/
def limit? (word : List Char) : Option Nat :=
  match Decimal.word? word with
  | some n => if n ≤ 5 then some n else none
  | none =>
    let upper := String.ofList (word.map Char.toUpper)
    if upper = "OFF" then some 0 else (all.find? (·.name = upper)).map rank

end Level

/-! ## Directives -/

/-- Something that the host does, within which entries are made. -/
structure Span where
  target : String
  name : String
  level : Level := .info
  fields : List (String × String) := []
  deriving Repr, DecidableEq, Inhabited

inductive Value where
  /-- A number or truth value. Fields hold texts, and none of them is one. -/
  | constant (word : List Char)
  | pattern (p : Pattern)
  deriving Repr, DecidableEq, Inhabited

namespace Value

/-- Whether a word is a number: digits with at most one point among them and an exponent after
them, an infinity, or no number at all by name. -/
def isNumber (word : List Char) : Bool :=
  let unsigned (w : List Char) : List Char :=
    match w with
    | '+' :: rest | '-' :: rest => rest
    | w => w
  let word := unsigned (word.map Char.toLower)
  let whole := word.takeWhile Char.isDigit
  let rest := word.drop whole.length
  let (point, fraction, rest) :=
    match rest with
    | '.' :: rest =>
      let fraction := rest.takeWhile Char.isDigit
      (true, fraction, rest.drop fraction.length)
    | rest => (false, [], rest)
  let hasDigits := !whole.isEmpty || (point && !fraction.isEmpty)
  let exponentFits :=
    match rest with
    | [] => true
    | 'e' :: exponent => !(unsigned exponent).isEmpty && (unsigned exponent).all Char.isDigit
    | _ => false
  ["inf", "infinity", "nan"].contains (String.ofList word) || (hasDigits && exponentFits)

def ofText? (word : List Char) : Option Value :=
  if word = "true".toList || word = "false".toList || isNumber word then some (.constant word)
  else (Pattern.ofText? word).map .pattern

def accepts (v : Value) (text : String) : Bool :=
  match v with
  | .constant _ => false
  | .pattern p => p.accepts text

end Value

structure Field where
  name : String
  value : Option Value := none
  deriving Repr, DecidableEq, Inhabited

namespace Field

/-- The field that a text says: its name, and a value after an equals sign. What follows a second
equals sign does not count. -/
def ofText? (text : List Char) : Option Field :=
  let name := text.takeWhile (· ≠ '=')
  match text.drop name.length with
  | [] => some { name := String.ofList name }
  | _ :: rest =>
    (Value.ofText? (rest.takeWhile (· ≠ '='))).map fun v =>
      { name := String.ofList name, value := some v }

end Field

structure Directive where
  /-- The start of the names of the targets. -/
  target : List Char := []
  /-- The name of the span, where a directive tells it. -/
  span : Option (List Char) := none
  field : Option Field := none
  /-- The rank of the last level that is let through. -/
  limit : Nat := Level.trace.rank
  deriving Repr, DecidableEq, Inhabited

namespace Directive

def isStart (c : Char) : Bool :=
  c = '-' || c = ':' || c = '_' || Text.isAlphanumeric c

/-- A text without its first bytes, where a character starts after them. -/
def dropBytes? : (bytes : Nat) → List Char → Option (List Char)
  | 0, text => some text
  | _, [] => none
  | n, c :: rest => if c.utf8Size ≤ n then dropBytes? (n - c.utf8Size) rest else none

/-- The bytes that a text takes. -/
def width (text : List Char) : Nat :=
  text.foldl (fun n c => n + c.utf8Size) 0

/-- The characters of a text in the bytes from `first` on, `size` bytes long. -/
def cut? (text : List Char) (first size : Nat) : Option (List Char) := do
  let rest ← dropBytes? first text
  let after ← dropBytes? size rest
  return rest.take (rest.length - after.length)

/-- The directive with the level that starts at a place. -/
def withLimit? (d : Directive) (text : List Char) (place : Nat) : Option Directive := do
  let word ← dropBytes? place text
  if word.isEmpty then return d else (Level.limit? word).map fun limit => { d with limit }

/-- The directive with what follows the closing bracket of a span. -/
def finish? (d : Directive) (text : List Char) (place : Nat) : List Char → Option Directive
  | [] => some d
  | '=' :: _ => d.withLimit? text (place + 1)
  | _ => none

/-- The directive with the span that starts at a place, after its opening bracket. -/
def withSpan? (d : Directive) (text : List Char) (place : Nat) (rest : List Char) :
    Option Directive := do
  let name := rest.takeWhile fun c => c ≠ ']' && c ≠ '\x7b'
  let span ← cut? text place (width name)
  let place := place + width name + 1
  match rest.drop name.length with
  | ']' :: rest => finish? { d with span := some span } text place rest
  | '\x7b' :: rest =>
    let field := rest.takeWhile (· ≠ '\x7d')
    let word ← cut? text place (width field)
    match rest.drop field.length with
    | '\x7d' :: ']' :: rest =>
      if word.isEmpty then none
      else
        let span := if span.isEmpty then none else some span
        let d := { d with span, field := some (← Field.ofText? word) }
        d.finish? text (place + width field + 2) rest
    | _ => none
  | _ => none

/-- The directive that a text says. A level keeps the blanks around it and so is none with them. -/
def ofText? (text : List Char) : Option Directive := do
  match Text.trim text with
  | [] => none
  | '[' :: rest => withSpan? {} text 1 rest
  | first :: more =>
    if !isStart first then none
    else
      let word := first :: more.takeWhile fun c => c ≠ '=' && c ≠ '['
      match (first :: more).drop word.length with
      | '=' :: _ => withLimit? { target := ← cut? text 0 (width word) } text (width word + 1)
      | '[' :: rest => withSpan? { target := ← cut? text 0 (width word) } text (width word + 1) rest
      | _ =>
        match Level.limit? text with
        | some limit => return { limit }
        | none => return { target := text }

/-- Whether a directive is about spans. -/
def isDynamic (d : Directive) : Bool :=
  d.span.isSome || d.field.isSome

/-- Whether a directive is about entries wherever they are made. -/
def isStatic (d : Directive) : Bool :=
  d.span.isNone && d.field.all (·.value.isNone)

/-- Whether two directives are about the same entries or spans. -/
def concernsSame (d e : Directive) : Bool :=
  d.target = e.target && d.span = e.span && d.field = e.field

/-- Whether a directive is about the entries of a target that have certain fields. -/
def fits (d : Directive) (target : String) (fields : List String) : Bool :=
  d.target.isPrefixOf target.toList && d.field.all fun f => fields.contains f.name

/-- Whether a directive is about a span, whatever the values of its fields. -/
def concerns (d : Directive) (s : Span) : Bool :=
  d.fits s.target (s.fields.map (·.1)) && d.span.all (· = s.name.toList)

/-- Whether the field of a span has the value that a directive asks for. -/
def holdsIn (d : Directive) (s : Span) : Bool :=
  d.field.all fun f =>
    f.value.all fun v => (s.fields.lookup f.name).any v.accepts

end Directive

end RLanguageHost.Log
