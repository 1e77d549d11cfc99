import RLanguageHost.Text.Regex.Reader
import RLanguageHost.Utility.Records.Program
import RLanguageHost.Utility.Records.Token

/-!
# Reading programs over records

Expressions bind as follows, the loosest first: assignment, choice, or, and, membership, match,
comparison, joining of texts, sum, product, sign, command input, power, counting up or down, field.
In the arguments of a statement that prints, an angle bracket or a bar outside of parentheses says
where the output goes.
-/

namespace RLanguageHost.Utility.Records

/-- What is known while a program is read. -/
structure Reader where
  tokens : List (Nat × Token)
  /-- The parentheses and braces that are open. -/
  round : Nat := 0
  curly : Nat := 0
  /-- The faults that did not end the reading, the last one first. -/
  faults : List String := []
  /-- The names that are in use outside of functions, and whether they are arrays. -/
  kinds : List (String × Bool) := []
  functions : List String := []
  /-- The functions that are called, with the numbers of arguments. -/
  calls : List (Nat × String × Nat) := []
  /-- The parameters of the function that is being read. -/
  parameters : Option (List String) := none
  loops : Nat := 0
  /-- Whether rules for records are being read. -/
  readsRecords : Bool := false

/-- Reading ends with what is said about it, or gives a value. -/
abbrev Reading := StateT Reader (Except (List String))

namespace Reading

def peek : Reading (Nat × Token) := do
  return (← get).tokens.headD (0, .finish)

def onLine (line : Nat) (text : String) : String :=
  "line " ++ toString line ++ ": " ++ text

def fail {α : Type} (text : String) : Reading α := do
  throw ((← get).faults.reverse ++ [text])

def note (line : Nat) (text : String) : Reading Unit :=
  modify fun r => { r with faults := onLine line text :: r.faults }

/-- Passes closing marks without opening ones. -/
def passExtra : (fuel : Nat) → Reading Unit
  | 0 => pure ()
  | fuel + 1 => do
    match ← peek with
    | (line, .extra s) =>
      note line ("extra \x27" ++ s ++ "\x27")
      modify fun r => { r with tokens := r.tokens.drop 1 }
      passExtra fuel
    | _ => pure ()

/-- The next token does not fit. -/
def unexpected {α : Type} : Reading α := do
  passExtra 100
  let r ← get
  let (line, t) ← peek
  let closes :=
    match t with
    | .mark ";" | .mark "\x7d" | .newline | .finish => true
    | _ => false
  match t with
  | .bad message => fail message
  | t =>
    if closes && r.round ≠ 0 then fail (onLine line ("missing ) near " ++ t.shown))
    else if r.curly ≠ 0 && t.shown = "end of file" then
      fail (onLine line ("missing \x7d near " ++ t.shown))
    else fail (onLine line ("syntax error at or near " ++ t.shown))

def advance : Reading Unit := do
  let (_, t) ← peek
  modify fun r =>
    let r := { r with tokens := r.tokens.drop 1 }
    match t with
    | .mark "(" => { r with round := r.round + 1 }
    | .mark ")" => { r with round := r.round - 1 }
    | .mark "\x7b" => { r with curly := r.curly + 1 }
    | .mark "\x7d" => { r with curly := r.curly - 1 }
    | _ => r
  passExtra 100

def sees (s : String) : Reading Bool := do
  match ← peek with
  | (_, .mark m) => return m = s
  | _ => return false

def seesWord (s : String) : Reading Bool := do
  match ← peek with
  | (_, .keyword k) => return k = s
  | _ => return false

def takes (s : String) : Reading Bool := do
  if ← sees s then
    advance
    return true
  else return false

def expect (s : String) : Reading Unit := do
  if !(← takes s) then unexpected

def skipLines : (fuel : Nat) → Reading Unit
  | 0 => pure ()
  | fuel + 1 => do
    match ← peek with
    | (_, .newline) => do advance; skipLines fuel
    | _ => pure ()

def skipBreaks : (fuel : Nat) → Reading Unit
  | 0 => pure ()
  | fuel + 1 => do
    match ← peek with
    | (_, .newline) | (_, .mark ";") => do advance; skipBreaks fuel
    | _ => pure ()

/-- How many newlines are skipped in one place. -/
def manyLines : Nat := 100000

/-- Notes how a name is used, unless it belongs to the function that is being read. -/
def useAs (line : Nat) (name : String) (isArray : Bool) : Reading Unit := do
  let r ← get
  if r.parameters.any (·.contains name) then pure ()
  else
    match r.kinds.lookup name with
    | none => set { r with kinds := (name, isArray) :: r.kinds }
    | some known =>
      if known != isArray then
        note line ("illegal reference to " ++ (if known then "array " else "variable ") ++ name)

/-- Notes that a variable is no array, if an expression is one. -/
def useAsValue (e : Expr) : Reading Unit := do
  match e with
  | .variable name => useAs (← peek).1 name false
  | _ => pure ()

/-- The spelling of the expressions that match texts. -/
def spelling : Regex.Spelling where
  bracketEscapes := true
  controls := true

end Reading

/-- Why a text is no expression that matches texts. -/
def regexFault (source : String) : String :=
  let bare := source.toList.foldl (fun (kept, guarded) c =>
    if guarded then (kept, false) else if c = '\\' then (kept, true) else (c :: kept, false))
    (([] : List Char), false)
  let count (c : Char) : Nat := bare.1.count c
  let why := if count ')' < count '(' then "missing \x27)\x27"
    else if count ']' < count '[' then "bad class -- [], [^] or ["
    else "missing operand"
  "regular expression compile failed (" ++ why ++ ")\n" ++ source

/-- The expression of a text, or why there is none. -/
def regexOf (source : String) : Except String Regex :=
  let cs := source.toList
  let lacksOperand := match cs with
    | c :: _ => c = '*' || c = '+' || c = '?' || c = '|'
        || (cs.getLast? = some '|' && cs.dropLast.getLast? ≠ some '\\')
    | [] => false
  match lacksOperand, Regex.ofText? Reading.spelling source with
  | false, some r => .ok r
  | _, _ => .error (regexFault source)

namespace Reading

def assignmentOf? (s : String) : Option (Option Operation) :=
  [("=", none), ("+=", some Operation.add), ("-=", some .subtract), ("*=", some .multiply),
    ("/=", some .divide), ("%=", some .remainder), ("^=", some .power)].lookup s

def comparisonOf? (s : String) : Option Comparison :=
  [("<", Comparison.less), ("<=", .atMost), ("==", .same), ("!=", .different), (">", .more),
    (">=", .atLeast)].lookup s

/-- Whether an operand of a joined text can start with a token. A sign cannot: it would go on with
the operand before it. -/
def startsOperand : Token → Bool
  | .number .. | .text _ | .regex _ | .name .. | .builtin _ => true
  | .mark s => s = "(" || s = "$" || s = "!" || s = "++" || s = "--"
  | .keyword s => s = "getline"
  | _ => false

/-- Checks the number of the arguments of a function that there always is. -/
def checkCount (line : Nat) (name : String) (count : Nat) : Reading Unit :=
  match Token.builtins.lookup name with
  | some (least, most) =>
    if count < least || most < count then
      note line ("wrong number of arguments in call to " ++ name)
    else pure ()
  | none => pure ()

/-- Whether the parenthesis that is next holds several expressions and no membership follows: then
it belongs to the statement around it. -/
def holdsList : (depth : Nat) → (several : Bool) → List Token → Bool
  | _, _, [] => false
  | depth, several, t :: rest =>
    match t with
    | .mark "(" | .mark "[" | .mark "\x7b" => holdsList (depth + 1) several rest
    | .mark ")" | .mark "]" | .mark "\x7d" =>
      if depth ≤ 1 then
        several && (match rest with
          | .keyword "in" :: _ => false
          | _ => true)
      else holdsList (depth - 1) several rest
    | .mark "," => holdsList depth (several || depth = 1) rest
    | _ => holdsList depth several rest

def arrayName : Reading String := do
  match ← peek with
  | (line, .name name _) => do
    advance
    useAs line name true
    return name
  | _ => unexpected

mutual

/-- Reads an expression whose operators bind at least as tightly as a level says. With `prints`, an
angle bracket or a bar ends it. -/
def expression : (fuel : Nat) → (prints : Bool) → (level : Nat) → Reading Expr
  | 0, _, _ => unexpected
  | fuel + 1, prints, level => do
    let first ← joined fuel prints
    let (_, t) ← peek
    match t, first.isTarget with
    | .mark s, true =>
      match assignmentOf? s with
      | some operation => do
        useAsValue first
        advance
        let value ← expression fuel prints 0
        return .assign operation first value
      | none => more fuel prints level first
    | _, _ => more fuel prints level first

/-- Goes on with the operators after an operand. The levels are: choice 1, or 2, and 3, membership
4, match 5, comparison 6. -/
def more : (fuel : Nat) → (prints : Bool) → (level : Nat) → Expr → Reading Expr
  | 0, _, _, _ => unexpected
  | fuel + 1, prints, level, left => do
    match ← peek with
    | (_, .mark "?") =>
      if 1 < level then return left
      else do
        advance
        skipLines manyLines
        let yes ← expression fuel prints 1
        skipLines manyLines
        expect ":"
        skipLines manyLines
        let no ← expression fuel prints 1
        more fuel prints level (.choose left yes no)
    | (_, .mark "||") =>
      if 2 < level then return left
      else do
        advance
        skipLines manyLines
        let right ← expression fuel prints 3
        more fuel prints level (.either left right)
    | (_, .mark "&&") =>
      if 3 < level then return left
      else do
        advance
        skipLines manyLines
        let right ← expression fuel prints 4
        more fuel prints level (.both left right)
    | (_, .keyword "in") =>
      if 4 < level then return left
      else do
        advance
        let array ← arrayName
        more fuel prints level (.contains [left] array)
    | (_, .mark "~") =>
      if 5 < level then return left
      else do
        advance
        let right ← expression fuel prints 6
        more fuel prints level (.isMatch left right)
    | (_, .mark "!~") =>
      if 5 < level then return left
      else do
        advance
        let right ← expression fuel prints 6
        more fuel prints level (.not (.isMatch left right))
    | (_, .mark s) =>
      match comparisonOf? s with
      | some comparison =>
        if 6 < level || (prints && s = ">") then return left
        else do
          advance
          let right ← expression fuel prints 7
          more fuel prints level (.compare comparison left right)
      | none => return left
    | _ => return left

def joined : (fuel : Nat) → (prints : Bool) → Reading Expr
  | 0, _ => unexpected
  | fuel + 1, prints => do
    let first ← term fuel prints 1
    joinMore fuel prints first

def joinMore : (fuel : Nat) → (prints : Bool) → Expr → Reading Expr
  | 0, _, _ => unexpected
  | fuel + 1, prints, left => do
    let (_, t) ← peek
    if startsOperand t then do
      let right ← term fuel prints 1
      joinMore fuel prints (.join left right)
    else return left

/-- Reads an operand with the operators of calculation after it. The levels are: sum 1, product 2,
sign 3, command input 4, power 5. -/
def term : (fuel : Nat) → (prints : Bool) → (level : Nat) → Reading Expr
  | 0, _, _ => unexpected
  | fuel + 1, prints, level => do
    let left ← (do
      match ← peek with
      | (_, .mark "!") => do advance; return .not (← term fuel prints 4)
      | (_, .mark "-") => do advance; return .negative (← term fuel prints 4)
      | (_, .mark "+") => do advance; return .positive (← term fuel prints 4)
      | _ => counted fuel)
    termMore fuel prints level left

/-- Goes on with the operators of calculation after an operand. -/
def termMore : (fuel : Nat) → (prints : Bool) → (level : Nat) → Expr → Reading Expr
  | 0, _, _, _ => unexpected
  | fuel + 1, prints, level, left => do
    let calculates (operation : Operation) (own next : Nat) : Reading Expr := do
      if own < level then return left
      else do
        advance
        let right ← term fuel prints next
        termMore fuel prints level (.calculate operation left right)
    match ← peek with
    | (_, .mark "+") => calculates .add 1 2
    | (_, .mark "-") => calculates .subtract 1 2
    | (_, .mark "*") => calculates .multiply 2 3
    | (_, .mark "/") => calculates .divide 2 3
    | (_, .mark "%") => calculates .remainder 2 3
    | (_, .mark "^") => calculates .power 5 5
    | (_, .mark "|") =>
      if 4 < level || prints then return left
      else do
        advance
        if ← seesWord "getline" then do
          advance
          let target ← target? fuel
          termMore fuel prints level (.nextOfCommand left target)
        else unexpected
    | _ => return left

def counted : (fuel : Nat) → Reading Expr
  | 0 => unexpected
  | fuel + 1 => do
    match ← peek with
    | (_, .mark "++") | (_, .mark "--") => do
      let up ← sees "++"
      advance
      let e ← operand fuel
      useAsValue e
      if e.isTarget then return .step true up e else unexpected
    | _ => do
      let e ← operand fuel
      if !e.isTarget then return e
      else if ← takes "++" then return .step false true e
      else if ← takes "--" then return .step false false e
      else return e

def target? : (fuel : Nat) → Reading (Option Expr)
  | 0 => unexpected
  | fuel + 1 => do
    match ← peek with
    | (_, .name _ false) | (_, .mark "$") => return some (← operand fuel)
    | _ => return none

def operand : (fuel : Nat) → Reading Expr
  | 0 => unexpected
  | fuel + 1 => do
    let (line, t) ← peek
    match t with
    | .number x _ => do advance; return .number x
    | .text s => do advance; return .text s
    | .regex source =>
      match regexOf source with
      | .ok r => do advance; return .regex r
      | .error text => fail (onLine line text)
    | .mark "$" => do
      advance
      match ← peek with
      | (_, .mark "-") => do advance; return .field (.negative (← counted fuel))
      | (_, .mark "+") => do advance; return .field (← counted fuel)
      | (_, .mark "!") => do advance; return .field (.not (← counted fuel))
      | (_, .mark "++") | (_, .mark "--") => return .field (← counted fuel)
      | _ => return .field (← operand fuel)
    | .mark "(" => do
      advance
      skipLines manyLines
      let e ← expression fuel false 0
      if ← sees "," then do
        let es ← listMore fuel [e]
        expect ")"
        if ← seesWord "in" then do
          advance
          return .contains es (← arrayName)
        else unexpected
      else do
        expect ")"
        return .group e
    | .keyword "getline" => do
      advance
      let target ← target? fuel
      if ← takes "<" then return .nextOfFile (← term fuel false 5) target
      else return .next target
    | .builtin name => do
      advance
      let arguments ← (do
        if ← takes "(" then do
          skipLines manyLines
          if ← takes ")" then return []
          else do
            let first ← expression fuel false 0
            let es ← listMore fuel [first]
            -- what these work on cannot be left out
            if es.length < 2 && ["split", "match", "sub", "gsub"].contains name then unexpected
            expect ")"
            return es
        else if name = "length" then return []
        else unexpected)
      checkCount line name arguments.length
      match name, arguments with
      | "split", _ :: .variable a :: _ => useAs line a true
      | _, _ => pure ()
      return .builtin name arguments
    | .name name isCalled => do
      let r ← get
      let isLocal := r.parameters.any (·.contains name)
      let isKnown := isLocal || (r.kinds.lookup name).isSome
      if (isCalled && !isKnown) || (r.functions.contains name && !isLocal) then do
        advance
        expect "("
        skipLines manyLines
        let arguments ← (do
          if ← takes ")" then return []
          else do
            let first ← expression fuel false 0
            let es ← listMore fuel [first]
            expect ")"
            return es)
        modify fun r => { r with calls := (line, name, arguments.length) :: r.calls }
        return .call name arguments
      else do
        advance
        if ← takes "[" then do
          useAs line name true
          let first ← expression fuel false 0
          let es ← listMore fuel [first]
          expect "]"
          return .element name es
        else return .variable name
    | _ => unexpected

def listMore : (fuel : Nat) → List Expr → Reading (List Expr)
  | 0, _ => unexpected
  | fuel + 1, es => do
    if ← takes "," then do
      skipLines manyLines
      let e ← expression fuel false 0
      listMore fuel (es ++ [e])
    else do
      skipLines manyLines
      return es

end

end Reading

end RLanguageHost.Utility.Records
