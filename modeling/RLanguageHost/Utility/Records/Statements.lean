import RLanguageHost.Utility.Records.Reader

/-!
# Reading the statements of programs over records

A statement ends at a semicolon, at the end of a line or before a closing brace. A program is a
sequence of rules and functions.
-/

namespace RLanguageHost.Utility.Records

namespace Reading

def endStatement : Reading Unit := do
  match ← peek with
  | (_, .mark ";") => do advance; skipLines manyLines
  | (_, .newline) => skipLines manyLines
  | (_, .mark "\x7d") | (_, .finish) => pure ()
  | _ => unexpected

/-- Whether nothing more of a statement follows. -/
def atEnd : Reading Bool := do
  match ← peek with
  | (_, .mark ";") | (_, .newline) | (_, .mark "\x7d") | (_, .finish) => return true
  | _ => return false

/-- Reads the expressions that a statement prints, up to where the output goes. -/
def printed (fuel : Nat) : Reading (List Expr) := do
  let (_, t) ← peek
  let ended ← atEnd
  let redirected :=
    match t with
    | .mark s => s = ">" || s = ">>" || s = "|"
    | _ => false
  if ended || redirected then return []
  else
    let tokens := (← get).tokens.map (·.2)
    if (← sees "(") && holdsList 0 false tokens then do
      advance
      skipLines manyLines
      let first ← expression fuel false 0
      let es ← listMore fuel [first]
      expect ")"
      return es
    else do
      let first ← expression fuel true 0
      rest fuel [first]
where
  /-- Goes on with the expressions after a comma. -/
  rest : (fuel : Nat) → List Expr → Reading (List Expr)
    | 0, _ => unexpected
    | fuel + 1, es => do
      if ← takes "," then do
        skipLines manyLines
        let e ← expression fuel true 0
        rest fuel (es ++ [e])
      else return es

/-- Reads where output goes. -/
def outlet? (fuel : Nat) : Reading (Option (Outlet × Expr)) := do
  let outlet : Option Outlet := match ← peek with
    | (_, .mark ">") => some .file
    | (_, .mark ">>") => some .fileEnd
    | (_, .mark "|") => some .command
    | _ => none
  match outlet with
  | none => return none
  | some o => do
    advance
    return some (o, ← expression fuel false 0)

def simple (fuel : Nat) : Reading Stmt := do
  let (line, t) ← peek
  match t with
  | .keyword "print" => do
    advance
    let es ← printed fuel
    return .print es (← outlet? fuel)
  | .keyword "printf" => do
    advance
    let es ← printed fuel
    if es.isEmpty then note line "no arguments in call to printf"
    return .printFormatted es (← outlet? fuel)
  | .keyword "delete" => do
    advance
    let array ← arrayName
    if ← takes "[" then do
      let first ← expression fuel false 0
      let es ← listMore fuel [first]
      expect "]"
      return .delete array (some es)
    else return .delete array none
  | _ => return .evaluate (← expression fuel false 0)

/-- Reads a statement that may be left out before a semicolon or a parenthesis. -/
def simple? (fuel : Nat) : Reading Stmt := do
  if (← sees ";") || (← sees ")") then return .block []
  else simple fuel

/-- The name and the array of a loop over an array, if one starts here. -/
def eachOf? (tokens : List Token) : Option (String × String) :=
  match tokens with
  | .mark "(" :: .name name _ :: .keyword "in" :: .name array _ :: .mark ")" :: _ =>
    some (name, array)
  | _ => none

/-- Reads a value up to the end of a statement, if there is one. -/
def value? (fuel : Nat) : Reading (Option Expr) := do
  if ← atEnd then return none
  else return some (← expression fuel false 0)

def checkLoop (line : Nat) (text : String) : Reading Unit := do
  if (← get).loops = 0 then note line (text ++ " statement outside of loop")

def checkRecords (line : Nat) (text : String) : Reading Unit := do
  if !(← get).readsRecords then note line ("improper use of " ++ text)

mutual

def statement : (fuel : Nat) → Reading Stmt
  | 0 => unexpected
  | fuel + 1 => do
    let (line, t) ← peek
    match t with
    | .mark "\x7b" => do
      advance
      let body ← statements fuel
      expect "\x7d"
      skipLines manyLines
      return .block body
    | .mark ";" => do
      advance
      skipLines manyLines
      return .block []
    | .keyword "if" => do
      advance
      expect "("
      skipLines manyLines
      let test ← expression fuel false 0
      skipLines manyLines
      expect ")"
      let yes ← bodyOf fuel
      let before ← get
      skipBreaks manyLines
      if ← seesWord "else" then do
        advance
        return .branch test yes (← bodyOf fuel)
      else do
        set before
        return .branch test yes (.block [])
    | .keyword "while" => do
      advance
      expect "("
      let test ← expression fuel false 0
      expect ")"
      return .loop test (← loopBody fuel)
    | .keyword "do" => do
      advance
      let body ← loopBody fuel
      skipBreaks manyLines
      if ← seesWord "while" then do
        advance
        expect "("
        let test ← expression fuel false 0
        expect ")"
        endStatement
        return .loopAfter body test
      else unexpected
    | .keyword "for" => do
      advance
      match eachOf? ((← get).tokens.map (·.2)) with
      | some (name, array) => do
        useAs line array true
        advance; advance; advance; advance; advance
        return .each name array (← loopBody fuel)
      | none => do
        expect "("
        let start ← simple? fuel
        expect ";"
        skipLines manyLines
        let test ← (do
          if ← sees ";" then return none
          else return some (← expression fuel false 0))
        expect ";"
        skipLines manyLines
        let step ← simple? fuel
        expect ")"
        return .counted start test step (← loopBody fuel)
    | .keyword "next" => do
      checkRecords line "next"
      advance
      endStatement
      return .nextRecord
    | .keyword "nextfile" => do
      checkRecords line "nextfile"
      advance
      endStatement
      return .nextFile
    | .keyword "exit" => do
      advance
      let status ← value? fuel
      endStatement
      return .leave status
    | .keyword "return" => do
      if (← get).parameters.isNone then note line "return outside function body"
      advance
      let value ← value? fuel
      endStatement
      return .giveBack value
    | .keyword "break" => do
      checkLoop line "break"
      advance
      endStatement
      return .breakLoop
    | .keyword "continue" => do
      checkLoop line "continue"
      advance
      endStatement
      return .continueLoop
    | _ => do
      let s ← simple fuel
      endStatement
      return s

def statements : (fuel : Nat) → Reading (List Stmt)
  | 0 => unexpected
  | fuel + 1 => do
    skipLines manyLines
    match ← peek with
    | (_, .mark "\x7d") => return []
    | (_, .finish) => unexpected
    | _ => do
      let first ← statement fuel
      return first :: (← statements fuel)

/-- Reads the statement that another one governs; it may be left out before a closing brace. -/
def bodyOf : (fuel : Nat) → Reading Stmt
  | 0 => unexpected
  | fuel + 1 => do
    skipLines manyLines
    if ← sees "\x7d" then return .block []
    else statement fuel

def loopBody : (fuel : Nat) → Reading Stmt
  | 0 => unexpected
  | fuel + 1 => do
    modify fun r => { r with loops := r.loops + 1 }
    let body ← bodyOf fuel
    modify fun r => { r with loops := r.loops - 1 }
    return body

end

def action (fuel : Nat) : Reading (List Stmt) := do
  expect "\x7b"
  let body ← statements fuel
  expect "\x7d"
  return body

def parameters : (fuel : Nat) → (function : String) → List String → Reading (List String)
  | 0, _, _ => unexpected
  | fuel + 1, f, names => do
    skipLines manyLines
    match ← peek with
    | (line, .name name _) => do
      if name = f then
        note line "function parameter cannot be the function"
        unexpected
      if names.contains name then note line (name ++ " is duplicated in argument list")
      advance
      if ← takes "," then parameters fuel f (names ++ [name])
      else do
        expect ")"
        return names ++ [name]
    | _ =>
      if names.isEmpty && (← takes ")") then return []
      else unexpected

def function (fuel : Nat) : Reading Function := do
  advance
  let (line, t) ← peek
  match t with
  | .name name _ => do
    if (← get).functions.contains name then note line ("redefinition of " ++ name)
    advance
    modify fun r => { r with functions := name :: r.functions }
    expect "("
    let names ← parameters fuel name []
    modify fun r => { r with parameters := some names, loops := 0, readsRecords := false }
    skipLines manyLines
    let body ← action fuel
    modify fun r => { r with parameters := none }
    return { name, parameters := names, body }
  | _ => unexpected

def rule (fuel : Nat) : Reading Rule := do
  modify fun r => { r with loops := 0, readsRecords := false }
  match ← peek with
  | (_, .keyword "BEGIN") => do
    advance
    return { pattern := .start, action := ← action fuel }
  | (_, .keyword "END") => do
    advance
    return { pattern := .finish, action := ← action fuel }
  | (_, .mark "\x7b") => do
    modify fun r => { r with readsRecords := true }
    return { pattern := .always, action := ← action fuel }
  | _ => do
    modify fun r => { r with readsRecords := true }
    let first ← expression fuel false 0
    let pattern ← (do
      if ← takes "," then do
        skipLines manyLines
        return Pattern.range first (← expression fuel false 0)
      else return .holds first)
    if ← sees "\x7b" then return { pattern, action := ← action fuel }
    else return { pattern, action := [.print [] none] }

/-- Reads rules and functions up to the end of the program. -/
def items : (fuel : Nat) → Program → Reading Program
  | 0, _ => unexpected
  | fuel + 1, p => do
    skipLines manyLines
    match ← peek with
    | (_, .finish) => return p
    | (_, .keyword "function") => do
      let f ← function fuel
      endItem
      items fuel { p with functions := p.functions ++ [f] }
    | _ => do
      let r ← rule fuel
      endItem
      items fuel { p with rules := p.rules ++ [r] }
where
  /-- Reads the semicolon that may stand after a rule. -/
  endItem : Reading Unit := do
    let _ ← takes ";"

def checkCalls (p : Program) : Reading Unit := do
  let (last, _) ← peek
  let r ← get
  let calls := if r.faults.isEmpty then r.calls.reverse else []
  calls.forM fun (line, name, count) =>
    match p.function? name with
    | none => note last ("function " ++ name ++ " never defined")
    | some f =>
      if f.parameters.length < count then note line ("too many arguments in call to " ++ name)
      else pure ()

end Reading

/-- The program of a text, or what is said about its faults. -/
def Program.ofText (source : String) : Except (List String) Program :=
  let tokens := tokensOf source
  let fuel := 12 * tokens.length + 100
  let read : Reading Program := do
    Reading.passExtra 100
    let p ← Reading.items fuel {}
    Reading.checkCalls p
    return p
  match read.run { tokens } with
  | .error lines => .error lines
  | .ok (p, r) => if r.faults.isEmpty then .ok p else .error r.faults.reverse

end RLanguageHost.Utility.Records
