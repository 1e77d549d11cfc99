import RLanguageHost.Shell.Word

/-!
# Shell arithmetic

Expressions over 64-bit numbers and variables, which wrap around. An operator takes its operands as
tightly as its place in the list of levels says, the loosest first; operators of one level are taken
from the left. A part whose value does not count is not evaluated.

The larger shell has more operators, numbers in other bases, and elements of arrays, and takes the
value of a variable as an expression in turn. Its messages quote the expression from the place on
where it went wrong.
-/

namespace RLanguageHost.Shell.Arithmetic

/-- Why an expression has no value. -/
inductive Fault where
  /-- Something else is in the place of what has to come next. -/
  | expected (what : String)
  /-- The divisor, up to the end of the expression. -/
  | divisionByZero (rest : String)
  /-- The value of a variable is no number. -/
  | notNumber (text : String)
  | unset (name : String)
  /-- A fault of the larger shell: the expression that it is in, and that from its place on. -/
  | wrong (what rest : String)
  /-- A fault within the value of a variable. -/
  | within (source : String) (inner : String)
  deriving Repr, DecidableEq, Inhabited

/-- The wording of a fault in the expression of some text. -/
def Fault.message (d : Dialect) (source : String) (fault : Fault) : String :=
  let source' := (source.trimAsciiStart).toString
  let token (what rest : String) : String :=
    source' ++ ": " ++ what ++ " (error token is \"" ++ rest ++ "\")"
  match d, fault with
  | .posix, .expected what =>
    "arithmetic expression: expecting " ++ what ++ ": \"" ++ source ++ "\""
  | .bash, .expected what => token ("syntax error: " ++ what ++ " expected") ""
  | .posix, .divisionByZero _ => "arithmetic expression: division by zero: \"" ++ source ++ "\""
  | .bash, .divisionByZero rest => token "division by 0" rest
  | _, .notNumber text => "Illegal number: " ++ text
  | _, .unset name => name ++ ": unbound variable"
  | _, .wrong what rest => token what rest
  | _, .within _ inner => inner

def digit? (base : Nat) (c : Char) : Option Nat :=
  let d := if c.isDigit then c.toNat - 48 else c.toLower.toNat - 87
  if c.isAlphanum && d < base then some d else none

/-- The number at the start of a text, with `0x` in base sixteen and with `0` in base eight, and
what follows it. -/
def leadingNumber? (cs : List Char) : Option (Nat × List Char) :=
  let read (base : Nat) (text : List Char) : Nat × List Char :=
    let isDigit := fun c => (digit? base c).isSome
    ((text.takeWhile isDigit).foldl (fun n c => n * base + (digit? base c).getD 0) 0,
      text.dropWhile isDigit)
  match cs with
  | '0' :: 'x' :: c :: rest | '0' :: 'X' :: c :: rest =>
    some (if (digit? 16 c).isSome then read 16 (c :: rest) else (0, cs.drop 1))
  | '0' :: rest => some (read 8 ('0' :: rest))
  | c :: _ => if c.isDigit then some (read 10 cs) else none
  | [] => none

/-- The number that a whole text stands for. -/
def number? (cs : List Char) : Option Int :=
  match leadingNumber? cs with
  | some (n, []) => some n
  | _ => none

/-- The number that a text with a sign and blanks around it stands for, read with a function. -/
def signed? (read : List Char → Option Int) (s : String) : Option Int :=
  match s.trimAscii.toString.toList with
  | '-' :: rest => (read rest).map fun n => -n
  | '+' :: rest => read rest
  | cs => read cs

/-- The number that decimal digits stand for. -/
def decimal? (s : String) : Option Int :=
  signed? (fun cs =>
    if cs.isEmpty || !cs.all Char.isDigit then none
    else some (cs.foldl (fun n c => n * 10 + Int.ofNat (c.toNat - 48)) 0)) s

/-- The number that a text stands for, zero if it is none. -/
def valueOf (s : String) : Int :=
  (signed? number? s).getD 0

/-- The value of a digit in bases up to 64: small letters come after the digits, then large letters
where the base tells them apart, then two signs. -/
def wideDigit? (base : Nat) (c : Char) : Option Nat :=
  let d :=
    if c.isDigit then c.toNat - 48
    else if c.isLower then c.toNat - 87
    else if c.isUpper then (if base ≤ 36 then c.toNat - 55 else c.toNat - 29)
    else if c = '@' then 62 else if c = '_' then 63 else base
  if d < base then some d else none

/-- What is wrong with a number of the larger shell, or its value. -/
def wideNumber? (word : List Char) : Except String Nat :=
  let read (base : Nat) (digits : List Char) : Except String Nat :=
    if digits.isEmpty then .error "invalid integer constant"
    else
      digits.foldlM (fun n c =>
        match wideDigit? base c with
        | some d => .ok (n * base + d)
        | none => .error "value too great for base") 0
  match word with
  | '0' :: 'x' :: digits | '0' :: 'X' :: digits => read 16 digits
  | '0' :: digit :: digits => if digit = '#' then read 10 word else read 8 (digit :: digits)
  | _ =>
    let base := word.takeWhile Char.isDigit
    match word.drop base.length with
    | '#' :: digits =>
      let b := numberIn 10 base
      if 2 ≤ b && b ≤ 64 then read b digits else .error "invalid arithmetic base"
    | _ => read 10 word

inductive Token where
  | number (n : Nat)
  | name (s : String)
  /-- An element of an array. -/
  | element (name subscript : String)
  | op (s : String)
  /-- A character that has no meaning. -/
  | other
  /-- A number that is none. -/
  | bad (what : String)
  deriving Repr, DecidableEq, Inhabited

/-- A token, and the expression from it on. -/
structure Placed where
  token : Token
  rest : String
  deriving Repr, Inhabited

/-- The operators, the longer ones first. -/
def operators (d : Dialect) : List String :=
  ["<<=", ">>="] ++ d.choose [] ["**", "++", "--"]
    ++ ["||", "&&", "|=", "&=", "^=", "==", "!=", "<=", ">=", "<<", ">>", "+=", "-=", "*=",
      "/=", "%=", "|", "^", "&", "<", ">", "+", "-", "*", "/", "%", "!", "~", "(", ")", "?", ":",
      "="] ++ d.choose [] [","]

def tokens (d : Dialect) : (fuel : Nat) → List Char → List Placed
  | 0, _ | _, [] => []
  | fuel + 1, c :: rest =>
    let here (t : Token) : Placed := ⟨t, String.ofList (c :: rest)⟩
    let ofOperator : List Placed :=
      match (operators d).find? fun op => op.toList.isPrefixOf (c :: rest) with
      | some op => here (.op op) :: tokens d fuel ((c :: rest).drop op.length)
      | none => here .other :: tokens d fuel rest
    if c = ' ' || c = '\t' || c = '\n' then tokens d fuel rest
    else if isNameStart c then
      let name := String.ofList (c :: rest.takeWhile isNameChar)
      match leadingSubscript d (rest.dropWhile isNameChar) with
      | (some subscript, rest) => here (.element name subscript) :: tokens d fuel rest
      | (none, rest) => here (.name name) :: tokens d fuel rest
    else
      match d with
      | .posix =>
        match leadingNumber? (c :: rest) with
        | some (n, rest) => here (.number n) :: tokens d fuel rest
        | none => ofOperator
      | .bash =>
        if c.isDigit then
          let isPart (e : Char) : Bool := e.isAlphanum || e = '#' || e = '@' || e = '_'
          let word := c :: rest.takeWhile isPart
          let token :=
            match wideNumber? word with
            | .ok n => Token.number n
            | .error what => .bad what
          here token :: tokens d fuel (rest.dropWhile isPart)
        else ofOperator

/-- What can be assigned: a variable or an element of an array. -/
structure Target where
  name : String
  subscript : Option String := none
  deriving Repr, DecidableEq, Inhabited

inductive Expr where
  | number (n : Nat)
  | value (target : Target)
  | unary (op : String) (e : Expr)
  /-- Two operands, and the expression from the second one on. -/
  | binary (op : String) (a b : Expr) (rest : String)
  | choice (test yes no : Expr)
  /-- Gives a variable a value, combined with its old one by an operator. -/
  | assign (target : Target) (op : Option String) (e : Expr) (rest : String)
  /-- Counts a variable up or down, before or after its value is taken. -/
  | step (before : Bool) (by_ : Int64) (target : Target)
  deriving Repr, DecidableEq, Inhabited

namespace Expr

/-- The operators with two operands, by levels. -/
def levels : List (List String) :=
  [["||"], ["&&"], ["|"], ["^"], ["&"], ["==", "!="], ["<", ">", "<=", ">="], ["<<", ">>"],
    ["+", "-"], ["*", "/", "%"]]

/-- The operator that an assignment combines the old value and the new one with, if it is one. -/
def assignment? (op : String) : Option (Option String) :=
  if op = "=" then some none
  else if ["<<=", ">>=", "|=", "&=", "^=", "+=", "-=", "*=", "/=", "%="].contains op then
    some (some (op.dropEnd 1).toString)
  else none

/-- What a token means as something to be assigned. -/
def target? : Token → Option Target
  | .name n => some { name := n }
  | .element n subscript => some { name := n, subscript := some subscript }
  | _ => none

/-- Where an expression is being read: what is left, and the expression from the last token on. -/
structure Rest where
  tokens : List Placed
  last : String

def Rest.token? (r : Rest) : Option Token :=
  r.tokens.head?.map (·.token)

def Rest.next (r : Rest) : Rest :=
  match r.tokens with
  | [] => r
  | t :: rest => ⟨rest, t.rest⟩

/-- The expression from the next token on, or from the last one at the end. -/
def Rest.shown (r : Rest) : String :=
  (r.tokens.head?.map (·.rest)).getD r.last

/-- The fault that another token was expected. -/
def Rest.fault (d : Dialect) (r : Rest) (posix bash : String) : Fault :=
  match d with
  | .posix => .expected posix
  | .bash => .wrong bash r.shown

/-- What the larger shell says about a missing operand. -/
def operandExpected : String := "syntax error: operand expected"

mutual

/-- Reads an expression that may be an assignment. -/
def whole (d : Dialect) : (fuel : Nat) → Rest → Except Fault (Expr × Rest)
  | 0, r => .error (r.fault d "primary" operandExpected)
  | fuel + 1, r =>
    match r.token?.bind target?, r.next.token? with
    | some target, some (.op o) =>
      match assignment? o with
      | some op => do
        let after := r.next.next
        let (e, rest) ← whole d fuel after
        return (.assign target op e after.shown, rest)
      | none => chosen d fuel r
    | _, _ => chosen d fuel r

/-- Reads an expression that may be a choice. -/
def chosen (d : Dialect) : (fuel : Nat) → Rest → Except Fault (Expr × Rest)
  | 0, r => .error (r.fault d "primary" operandExpected)
  | fuel + 1, r => do
    let (test, rest) ← level d fuel levels r
    if rest.token? = some (.op "?") then
      let (yes, rest) ← whole d fuel rest.next
      if rest.token? = some (.op ":") then
        let (no, rest) ← chosen d fuel rest.next
        return (.choice test yes no, rest)
      else .error (rest.fault d "\x27:\x27" "\x60:\x27 expected for conditional expression")
    else return (test, rest)

/-- Reads operands joined by the operators of the levels. -/
def level (d : Dialect) : (fuel : Nat) → List (List String) → Rest → Except Fault (Expr × Rest)
  | 0, _, r => .error (r.fault d "primary" operandExpected)
  | fuel + 1, [], r => power d fuel r
  | fuel + 1, ops :: tighter, r => do
    let (first, rest) ← level d fuel tighter r
    levelRest d fuel ops tighter first rest

def levelRest (d : Dialect) : (fuel : Nat) → List String → List (List String) → Expr → Rest →
    Except Fault (Expr × Rest)
  | 0, _, _, _, r => .error (r.fault d "primary" operandExpected)
  | fuel + 1, ops, tighter, first, r =>
    match r.token? with
    | some (.op o) =>
      if ops.contains o then do
        let after := r.next
        let (second, rest) ← level d fuel tighter after
        levelRest d fuel ops tighter (.binary o first second after.shown) rest
      else .ok (first, r)
    | _ => .ok (first, r)

/-- Reads a power, whose operator is taken from the right. -/
def power (d : Dialect) : (fuel : Nat) → Rest → Except Fault (Expr × Rest)
  | 0, r => .error (r.fault d "primary" operandExpected)
  | fuel + 1, r => do
    let (first, rest) ← primary d fuel r
    if rest.token? = some (.op "**") then
      let after := rest.next
      let (second, rest) ← power d fuel after
      return (.binary "**" first second after.shown, rest)
    else return (first, rest)

def primary (d : Dialect) : (fuel : Nat) → Rest → Except Fault (Expr × Rest)
  | 0, r => .error (r.fault d "primary" operandExpected)
  | fuel + 1, r =>
    let afterTarget (target : Target) : Expr × Rest :=
      match r.next.token? with
      | some (.op "++") => (.step false 1 target, r.next.next)
      | some (.op "--") => (.step false (-1) target, r.next.next)
      | _ => (.value target, r.next)
    match r.token? with
    | some (.number n) => .ok (.number n, r.next)
    | some (.bad what) => .error (.wrong what (wordOf r.shown))
    | some (.name n) => .ok (afterTarget { name := n })
    | some (.element n subscript) => .ok (afterTarget { name := n, subscript := some subscript })
    | some (.op "(") => do
      let (e, rest) ← commas d fuel r.next
      if rest.token? = some (.op ")") then return (e, rest.next)
      else .error (rest.fault d "\x27)\x27" "missing \x60)\x27")
    | some (.op o) =>
      if o = "++" || o = "--" then
        let by_ : Int64 := if o = "++" then 1 else -1
        match r.next.token?.bind target? with
        | some target => .ok (.step true by_ target, r.next.next)
        | none => do
          let (e, rest) ← primary d fuel r.next
          return (if o = "++" then e else .unary "-" (.unary "-" e), rest)
      else if ["+", "-", "!", "~"].contains o then do
        let (e, rest) ← primary d fuel r.next
        return (.unary o e, rest)
      else .error (r.fault d "primary" operandExpected)
    | _ => .error (r.fault d "primary" operandExpected)

/-- Reads expressions between commas, of which the last one counts. -/
def commas (d : Dialect) : (fuel : Nat) → Rest → Except Fault (Expr × Rest)
  | 0, r => .error (r.fault d "primary" operandExpected)
  | fuel + 1, r => do
    let (first, rest) ← whole d fuel r
    if rest.token? = some (.op ",") then
      let (second, rest) ← commas d fuel rest.next
      return (.binary "," first second "", rest)
    else return (first, rest)

/-- The characters of a number at the start of a text. -/
def wordOf (shown : String) : String :=
  String.ofList (shown.toList.takeWhile fun c =>
    c.isAlphanum || c = '#' || c = '@' || c = '_')

end

/-- The expression that a text stands for. An empty text stands for zero. -/
def ofText (d : Dialect) (source : String) : Except Fault Expr := do
  let ts := tokens d (source.length + 1) source.toList
  if ts.isEmpty then return .number 0
  let (e, rest) ← commas d (20 * ts.length + 40) ⟨ts, ""⟩
  match rest.tokens.head? with
  | none => return e
  | some t =>
    match d, t.token with
    | .posix, _ => .error (.expected "EOF")
    | .bash, .other => .error (.wrong "syntax error: invalid arithmetic operator" t.rest)
    | .bash, .op o =>
      if (assignment? o).isSome then
        .error (.wrong "attempted assignment to non-variable" t.rest)
      else .error (.wrong "syntax error in expression" t.rest)
    | .bash, _ => .error (.wrong "syntax error in expression" t.rest)

end Expr

/-- The number of a truth value. -/
def ofBool (b : Bool) : Int64 :=
  if b then 1 else 0

/-- A number multiplied with itself. -/
def powerOf (a : Int64) (n : Nat) : Int64 :=
  Int64.ofInt ((List.replicate n a.toInt).foldl (fun x y =>
    (Int64.ofInt (x * y)).toInt) 1)

/-- What an operator makes of two numbers. -/
def apply (op : String) (a b : Int64) (rest : String) : Except Fault Int64 :=
  match op with
  | "," => .ok b
  | "|" => .ok (a ||| b)
  | "^" => .ok (a ^^^ b)
  | "&" => .ok (a &&& b)
  | "==" => .ok (ofBool (a == b))
  | "!=" => .ok (ofBool (a != b))
  | "<=" => .ok (ofBool (a ≤ b))
  | ">=" => .ok (ofBool (b ≤ a))
  | "<" => .ok (ofBool (a < b))
  | ">" => .ok (ofBool (b < a))
  | "<<" => .ok (a <<< b)
  | ">>" => .ok (a >>> b)
  | "+" => .ok (a + b)
  | "-" => .ok (a - b)
  | "*" => .ok (a * b)
  | "**" =>
    if b < 0 then .error (.wrong "exponent less than 0" rest)
    else .ok (powerOf a (min b.toInt.toNat 4096))
  | "/" => if b == 0 then .error (.divisionByZero rest) else .ok (a / b)
  | "%" => if b == 0 then .error (.divisionByZero rest) else .ok (a % b)
  | _ => .error (.expected "EOF")

/-- The variables that an expression sees: those it has assigned, and those of the shell. -/
structure Scope where
  dialect : Dialect
  lookup : Target → Option String
  /-- Whether the elements of an array go by names. -/
  isKeyed : String → Bool
  needsValues : Bool
  assigned : List (Target × Int64) := []

/-- How texts are evaluated in turn. -/
abbrev Deep := String → Scope → Except Fault (Int64 × Scope)

/-- A target with its subscript evaluated. -/
def Target.settle (deep : Deep) (t : Target) (s : Scope) : Except Fault (Target × Scope) :=
  match t.subscript with
  | none => .ok (t, s)
  | some subscript =>
    if s.isKeyed t.name then .ok (t, s)
    else do
      let (n, s) ← deep subscript s
      return ({ t with subscript := some (toString n.toInt) }, s)

/-- The value of a variable; one that is empty or not set counts as zero. -/
def Scope.value (deep : Deep) (s : Scope) (t : Target) : Except Fault (Int64 × Scope) :=
  match s.assigned.lookup t, s.lookup t with
  | some n, _ => .ok (n, s)
  | none, none =>
    if s.needsValues && s.dialect = .bash then .error (.unset t.name) else .ok (0, s)
  | none, some text =>
    if text.trimAscii.isEmpty then .ok (0, s)
    else
      match s.dialect with
      | .posix =>
        match signed? number? text with
        | some n => .ok (Int64.ofInt n, s)
        | none => .error (.notNumber text)
      | .bash => deep text s

/-- The value of an expression, and the variables after it. -/
def Expr.eval (deep : Deep) : Expr → Scope → Except Fault (Int64 × Scope)
  | .number n, s =>
    .ok (Int64.ofInt (s.dialect.choose (min n 9223372036854775807 : Nat) n : Nat), s)
  | .value t, s => do
    let (t, s) ← t.settle deep s
    s.value deep t
  | .unary op e, s => do
    let (n, s) ← e.eval deep s
    return (match op with
      | "-" => -n
      | "!" => ofBool (n == 0)
      | "~" => ~~~n
      | _ => n, s)
  | .binary op a b rest, s => do
    let (x, s) ← a.eval deep s
    if op = "&&" && x == 0 then return (0, s)
    else if op = "||" && x != 0 then return (1, s)
    else
      let (y, s) ← b.eval deep s
      if op = "&&" || op = "||" then return (ofBool (y != 0), s)
      return (← apply op x y rest, s)
  | .choice test yes no, s => do
    let (n, s) ← test.eval deep s
    if n == 0 then no.eval deep s else yes.eval deep s
  | .assign target op e rest, s => do
    let (target, s) ← target.settle deep s
    let (n, s) ← e.eval deep s
    let (n, s) ← match op with
      | none => pure (n, s)
      | some op =>
        let (old, s) ← s.value deep target
        pure (← apply op old n rest, s)
    return (n, { s with assigned := (target, n) :: s.assigned })
  | .step before by_ target, s => do
    let (target, s) ← target.settle deep s
    let (old, s) ← s.value deep target
    let new := old + by_
    return (if before then new else old, { s with assigned := (target, new) :: s.assigned })

/-- Evaluates the expression of a text, and texts within it up to some depth. -/
def evalText : (depth : Nat) → Deep
  | 0, source, _ => .error (.within source (source ++ ": expression recursion level exceeded"
      ++ " (error token is \"" ++ source ++ "\")"))
  | depth + 1, source, s =>
    let deep : Deep := fun text s =>
      (evalText depth text s).mapError fun
        | .within t m => .within t m
        | .unset n => .unset n
        | fault => .within text (fault.message s.dialect text)
    match Expr.ofText s.dialect source with
    | .error fault => .error fault
    | .ok e => e.eval deep s

/-- How deep values can be nested in each other. -/
def deepest : Nat := 100

/-- The value of the expression in a text, and what it assigns. -/
def eval (s : Scope) (source : String) : Except Fault (Int64 × List (Target × Int64)) := do
  let (n, s) ← evalText deepest source s
  return (n, s.assigned.reverse)

end RLanguageHost.Shell.Arithmetic
