import RLanguageHost.Utility.Records.Statements
import RLanguageHost.Utility.Records.World

/-!
# Running programs over records

The meaning of expressions and statements, and the run of a program: the rules for the start, the
rules for each record of the inputs, and the rules for the finish. A program that leaves early still
carries out the rules for the finish.
-/

namespace RLanguageHost.Utility.Records

inductive Flow where
  | goesOn
  | breaks
  | continues
  | returns (v : Value)
  deriving Repr, Inhabited

namespace Act

/-- Does something again and again until it says how that ends. -/
def again : (turns : Nat) → Act (Option Flow) → Act Flow
  | 0, _ => throw .busy
  | n + 1, round => do
    match ← round with
    | some flow => return flow
    | none => again n round

/-- So many rounds of a loop count as endless. -/
def manyRounds : Nat := 20000000

def afterRound (flow : Flow) : Option Flow :=
  match flow with
  | .goesOn | .continues => none
  | .breaks => some .goesOn
  | .returns v => some (.returns v)

/-- The key that values are together. -/
def keyOf (vs : List Value) : Act Key := do
  match vs with
  | [.number x] =>
    match wordOf? x with
    | some n => return .whole n
    | none => return .text (← textOf (.number x))
  | [v] => return .text (← textOf v)
  | vs => return .text ((← knownText "SUBSEP").intercalate (← vs.mapM textOf))

/-- Where the array with a name is kept. -/
def placeOf (name : String) : Act String := do
  match (← get).locals.lookup name with
  | some (.table key) => return key
  | _ => return name

def tableOf (name : String) : Act Table := do
  return (← get).tables.getD (← placeOf name) {}

/-- Puts an array in the place of the one with a name. -/
def setTable (name : String) (t : Table) : Act Unit := do
  let key ← placeOf name
  modify fun w => { w with tables := w.tables.insert key t }

/-- What an array has for a key, which it has from then on. -/
def useEntry (name : String) (k : Key) : Act Value := do
  let (v, t) := (← tableOf name).use k
  setTable name t
  return v

def setEntry (name : String) (k : Key) (v : Value) : Act Unit := do
  let key ← placeOf name
  modify fun w =>
    let t := w.tables.getD key {}
    { w with tables := (w.tables.insert key {}).insert key (t.put k v) }

def setVariable (name : String) (v : Value) : Act Unit := do
  if (← get).locals.any (·.1 = name) then
    modify fun w => { w with locals := w.locals.map fun x =>
      if x.1 = name then (name, .value v) else x }
  else setGlobal name v

def valueOf (name : String) : Act Value := do
  match (← get).locals.lookup name with
  | some (.value v) => return v
  | some (.table _) => return .unset
  | none => global name

def isTable (name : String) : Act Bool := do
  match (← get).locals.lookup name with
  | some (.table _) => return true
  | some (.value _) => return false
  | none => return (← get).tables.contains name

/-- The replacement that a text writes for a match: an ampersand stands for the match, unless a
backslash stands before it. -/
def replacement (text : Bytes) (found : Bytes) : Bytes :=
  match text with
  | [] => []
  | 92 :: 92 :: 38 :: rest => 92 :: (found ++ replacement rest found)
  | 92 :: 38 :: rest => 38 :: replacement rest found
  | 38 :: rest => found ++ replacement rest found
  | b :: rest => b :: replacement rest found

/-- A part of a text, from a place on and not longer than so many characters. -/
def portion (s : String) (first : Float) (count : Option Float) : String :=
  let n := s.length
  let start := place first
  match count with
  | none => (s.drop ((start - 1).toNat)).toString
  | some c =>
    let size := if start < 1 then place (c - Float.ofInt start) else place c
    let skipped := (start - 1).toNat
    String.ofList (((s.toList).drop (min skipped n)).take size.toNat)

/-- The letters of a text changed in size. -/
def sized (up : Bool) (s : String) : String :=
  s.map fun c => if up then c.toUpper else c.toLower

/-- The next number of a sequence without order, between zero and one. -/
def random : Act Float := do
  let next := ((← get).seed * 1103515245 + 12345) % 2147483648
  modify fun w => { w with seed := next }
  return Float.ofNat next / 2147483648.0

def format (who : String) (vs : List Value) : Act String := do
  match vs with
  | [] => return ""
  | f :: vs =>
    let f ← textOf f
    let (cs, fault) := Value.format (← knownText "CONVFMT") (f.length + 1) 1 f.toList vs
    let out := String.ofList cs
    let fails (text : String) : Act String := do
      if who = "printf" then printMain out
      faultHere text
    match fault with
    | none => return out
    | some .tooFew => fails ("not enough arguments passed to " ++ who ++ "(\"" ++ f ++ "\")")
    | some (.conversion n) =>
      fails ("improper conversion(number " ++ toString n ++ ") in " ++ who ++ "(\"" ++ f ++ "\")")

def apply (name : String) (vs : List Value) : Act Value := do
  let text (i : Nat) : Act String := textOf (vs.getD i .unset)
  let number (i : Nat) : Float := (vs.getD i .unset).toNumber
  let ofFunction (f : Float → Float) : Act Value := return .number (f (number 0))
  match name with
  | "length" =>
    if vs.isEmpty then return .ofNat (← recordText).length
    else return .ofNat (← text 0).length
  | "index" => do
    let s ← text 0
    let t ← text 1
    if t = "" then return .ofNat 1
    else
      match s.splitOn t with
      | _ :: [] | [] => return .ofNat 0
      | front :: _ => return .ofNat (front.length + 1)
  | "substr" => do
    let s ← text 0
    return .text (portion s (number 1) (vs[2]?.map Value.toNumber))
  | "sprintf" => return .text (← format "sprintf" vs)
  | "sin" => ofFunction Float.sin
  | "cos" => ofFunction Float.cos
  | "exp" => ofFunction Float.exp
  | "log" => ofFunction Float.log
  | "sqrt" => ofFunction Float.sqrt
  | "int" => ofFunction fun x => if x < 0.0 then x.ceil + 0.0 else x.floor
  | "atan2" => return .number (Float.atan2 (number 0) (number 1))
  | "rand" => return .number (← random)
  | "srand" => do
    let earlier := (← get).seed
    modify fun w => { w with seed := (truncated (number 0)).natAbs }
    return .ofNat earlier
  | "close" => close (← text 0)
  | "system" => system (← text 0)
  | "toupper" => return .text (sized true (← text 0))
  | "tolower" => return .text (sized false (← text 0))
  | "fflush" =>
    if vs.isEmpty then do
      flushAll
      return .ofNat 0
    else do
      let name ← text 0
      match (← get).sinks.find? (·.name = name) with
      | some s => do
        flushSink s
        return .ofNat 0
      | none =>
        if name = "" || name = "/dev/stdout" then do
          flushAll
          return .ofNat 0
        else return .number (-1.0)
  | _ => return .ofNat 0

/-- The values that the names of the parameters of a function have in a call. -/
def slots (kinds : List Bool) (arguments : List (Option String × Value)) :
    Nat → List String → Act (List (String × Slot))
  | _, [] => return []
  | i, name :: rest => do
    let slot ← (do
      if kinds.getD i false then
        match (arguments.getD i (none, .unset)).1 with
        | some key => return Slot.table key
        | none => do
          let n := (← get).fresh
          modify fun w => { w with fresh := n + 1 }
          return .table ("#" ++ toString n)
      else return .value (arguments.getD i (none, .unset)).2)
    return (name, slot) :: (← slots kinds arguments (i + 1) rest)

/-- Replaces matches in what an expression stands for. -/
def replace (all : Bool) (pattern : Act Regex) (new old : Act Value)
    (store : (Value → Act (Value × Value)) → Act Value) : Act Value := do
  let r ← pattern
  let text ← textOf (← new)
  let old ← textOf (← old)
  let (bytes, n) := r.replace all 1 (fun a b => replacement (Shell.rawOf text) (b.since a))
    (Shell.rawOf old)
  if n ≠ 0 then
    let _ ← store fun _ => return (.text (Shell.textOf bytes), .unset)
  return .ofNat n

end Act

/-- A program with what is known of its functions. -/
structure Code where
  program : Program
  /-- Which parameters of functions are arrays. -/
  arrays : List (String × List Bool)

namespace Code

open Act

mutual

def evaluate (c : Code) : (fuel : Nat) → Expr → Act Value
  | 0, _ => throw .busy
  | fuel + 1, e => do
    match e with
    | .number x => return .number x
    | .text s => return .text s
    | .regex r => return .ofBool (r.isFound (Shell.rawOf (← recordText)))
    | .variable name => valueOf name
    | .group e => evaluate c fuel e
    | .field index => field (← evaluate c fuel index).toNumber
    | .element array subscripts => do
      let k ← keyOf (← evaluateAll c fuel subscripts)
      useEntry array k
    | .assign none target value => do
      let v ← evaluate c fuel value
      store c fuel target fun _ => return (v, v)
    | .assign (some o) target value => do
      let y ← evaluate c fuel value
      store c fuel target fun old => do
        let v := Value.number (Value.calculate o old.toNumber y.toNumber)
        return (v, v)
    | .step before up target =>
      store c fuel target fun old => do
        let x := old.toNumber
        let y := if up then x + 1.0 else x - 1.0
        return (.number y, .number (if before then y else x))
    | .choose test yes no => do
      if (← evaluate c fuel test).isTrue then evaluate c fuel yes else evaluate c fuel no
    | .both a b => do
      if (← evaluate c fuel a).isTrue then return .ofBool (← evaluate c fuel b).isTrue
      else return .ofBool false
    | .either a b => do
      if (← evaluate c fuel a).isTrue then return .ofBool true
      else return .ofBool (← evaluate c fuel b).isTrue
    | .not e => return .ofBool !(← evaluate c fuel e).isTrue
    | .negative e => return .number (-(← evaluate c fuel e).toNumber)
    | .positive e => return .number (← evaluate c fuel e).toNumber
    | .calculate o a b => do
      let x ← evaluate c fuel a
      let y ← evaluate c fuel b
      return .number (Value.calculate o x.toNumber y.toNumber)
    | .join a b => do
      let x ← evaluate c fuel a
      let y ← evaluate c fuel b
      return .text ((← textOf x) ++ (← textOf y))
    | .compare o a b => do
      let x ← evaluate c fuel a
      let y ← evaluate c fuel b
      return .ofBool (x.compare (← knownText "CONVFMT") o y)
    | .isMatch a pattern => do
      let s ← textOf (← evaluate c fuel a)
      let r ← matcher c fuel pattern
      return .ofBool (r.isFound (Shell.rawOf s))
    | .contains subscripts array => do
      let k ← keyOf (← evaluateAll c fuel subscripts)
      return .ofBool ((← tableOf array).has k)
    | .call f arguments => callFunction c fuel f arguments
    | .builtin name arguments => callBuiltin c fuel name arguments
    | .next target => do
      match ← nextRecord manyPieces with
      | none => return .ofNat 0
      | some s => do
        count "NR"
        count "FNR"
        receive c fuel target s
        return .ofNat 1
    | .nextOfFile path target => do
      let name ← textOf (← evaluate c fuel path)
      if !(← get).feeds.any (·.1 = name) then
        match ← loadFile name with
        | some (.ok feed) => modify fun w => { w with feeds := (name, feed) :: w.feeds }
        | some (.error (.system .isDirectory)) => throw (.fault readFault)
        | _ => pure ()
      readNamed c fuel false name target
    | .nextOfCommand command target => do
      let name ← textOf (← evaluate c fuel command)
      if !(← get).feeds.any (·.1 = name) then
        flushAll
        match ← ask (.run name none true) with
        | .ran word bytes =>
          modify fun w => { w with
            feeds := (name, { text := (Shell.textOf bytes).toList }) :: w.feeds
            statuses := (name, statusOfWord word) :: w.statuses }
        | _ => pure ()
      readNamed c fuel true name target

def evaluateAll (c : Code) : (fuel : Nat) → List Expr → Act (List Value)
  | 0, _ => throw .busy
  | _, [] => return []
  | fuel + 1, e :: rest => do
    let v ← evaluate c fuel e
    return v :: (← evaluateAll c fuel rest)

/-- Changes what an expression stands for. The change gives the new value, and that of the whole. -/
def store (c : Code) : (fuel : Nat) → Expr → (Value → Act (Value × Value)) → Act Value
  | 0, _, _ => throw .busy
  | fuel + 1, target, change => do
    match target with
    | .variable name => do
      let (v, result) ← change (← valueOf name)
      setVariable name v
      return result
    | .field index => do
      let x := (← evaluate c fuel index).toNumber
      let (v, result) ← change (← field x)
      setField x v
      return result
    | .element array subscripts => do
      let k ← keyOf (← evaluateAll c fuel subscripts)
      let (v, result) ← change (← useEntry array k)
      setEntry array k v
      return result
    | _ => return .unset

/-- Takes a record for what was to receive it, or as the record. -/
def receive (c : Code) : (fuel : Nat) → Option Expr → String → Act Unit
  | 0, _, _ => throw .busy
  | _, none, s => setRecord s
  | fuel + 1, some target, s => do
    let _ ← store c fuel target fun _ => return (.input s, .unset)

def readNamed (c : Code) : (fuel : Nat) → (counts : Bool) → String → Option Expr → Act Value
  | 0, _, _, _ => throw .busy
  | fuel + 1, counts, name, target => do
    match (← get).feeds.lookup name with
    | none => return .number (-1.0)
    | some feed => do
      let (found, feed) ← readFeed manyPieces feed
      modify fun w => { w with feeds := w.feeds.map fun f =>
        if f.1 = name then (name, feed) else f }
      match found with
      | none => return .ofNat 0
      | some s => do
        if counts then count "NR"
        receive c fuel target s
        return .ofNat 1

/-- The expression that another one matches texts with. -/
def matcher (c : Code) : (fuel : Nat) → Expr → Act Regex
  | 0, _ => throw .busy
  | fuel + 1, e => do
    match e with
    | .regex r => return r
    | e => patternOf (← evaluate c fuel e)

def callBuiltin (c : Code) : (fuel : Nat) → String → List Expr → Act Value
  | 0, _, _ => throw .busy
  | fuel + 1, name, arguments => do
    match name, arguments with
    | "length", [.variable a] => do
      if ← isTable a then return .ofNat (← tableOf a).entries.size
      else apply name [← valueOf a]
    | "split", s :: .variable a :: rest => do
      let text ← textOf (← evaluate c fuel s)
      let found ← (do
        match rest with
        | [] => parts (← knownText "FS") text
        | .regex r :: _ =>
          let p : Regex.Progress := { rest := Shell.rawOf text }
          return if text = "" then [] else regexParts r (2 * text.length + 2) p p
        | e :: _ => parts (← textOf (← evaluate c fuel e)) text)
      setTable a (.ofValues (found.map Value.input))
      return .ofNat found.length
    | "match", [s, pattern] => do
      let text ← textOf (← evaluate c fuel s)
      let r ← matcher c fuel pattern
      let (first, size) : Float × Float :=
        match r.findIn? (Shell.rawOf text) with
        | some (a, b) => (Float.ofNat (a.before.length + 1), Float.ofNat (b.since a).length)
        | none => (0.0, -1.0)
      setKnown "RSTART" (.number first)
      setKnown "RLENGTH" (.number size)
      return .number first
    | "sub", pattern :: new :: rest =>
      let target := rest.headD (.field (.number 0.0))
      replace false (matcher c fuel pattern) (evaluate c fuel new) (evaluate c fuel target)
        (store c fuel target)
    | "gsub", pattern :: new :: rest =>
      let target := rest.headD (.field (.number 0.0))
      replace true (matcher c fuel pattern) (evaluate c fuel new) (evaluate c fuel target)
        (store c fuel target)
    | _, arguments => do
      let vs ← evaluateAll c fuel arguments
      apply name vs

def callFunction (c : Code) : (fuel : Nat) → String → List Expr → Act Value
  | 0, _, _ => throw .busy
  | fuel + 1, name, arguments => do
    match c.program.function? name with
    | none => return .unset
    | some f => do
      let kinds := (c.arrays.lookup name).getD []
      let given ← argumentsOf c fuel kinds 0 arguments
      let outer := (← get).locals
      let locals ← slots kinds given 0 f.parameters
      modify fun w => { w with locals }
      let flow ← executeAll c fuel f.body
      modify fun w => { w with locals := outer }
      match flow with
      | .returns v => return v
      | _ => return .unset

/-- The values of the arguments of a call, or where their arrays are kept. -/
def argumentsOf (c : Code) : (fuel : Nat) → List Bool → (i : Nat) → List Expr →
    Act (List (Option String × Value))
  | 0, _, _, _ => throw .busy
  | _, _, _, [] => return []
  | fuel + 1, kinds, i, e :: rest => do
    let given ← (do
      match kinds.getD i false, e with
      | true, .variable name => do
        return (some (← placeOf name), Value.unset)
      | _, e => return (none, ← evaluate c fuel e))
    return given :: (← argumentsOf c fuel kinds (i + 1) rest)

def execute (c : Code) : (fuel : Nat) → Stmt → Act Flow
  | 0, _ => throw .busy
  | fuel + 1, s => do
    match s with
    | .evaluate e => do
      let _ ← evaluate c fuel e
      return .goesOn
    | .print arguments target => do
      let vs ← evaluateAll c fuel arguments
      let format ← knownText "OFMT"
      let line ← (do
        if arguments.isEmpty then recordText
        else return (← knownText "OFS").intercalate (vs.map (·.render format)))
      write c fuel target (line ++ (← knownText "ORS"))
      return .goesOn
    | .printFormatted arguments target => do
      let vs ← evaluateAll c fuel arguments
      write c fuel target (← format "printf" vs)
      return .goesOn
    | .block body => executeAll c fuel body
    | .branch test yes no => do
      if (← evaluate c fuel test).isTrue then execute c fuel yes else execute c fuel no
    | .loop test body =>
      again manyRounds do
        if (← evaluate c fuel test).isTrue then return afterRound (← execute c fuel body)
        else return some .goesOn
    | .loopAfter body test =>
      again manyRounds do
        match afterRound (← execute c fuel body) with
        | some flow => return some flow
        | none =>
          if (← evaluate c fuel test).isTrue then return none else return some .goesOn
    | .counted start test step body => do
      let _ ← execute c fuel start
      again manyRounds do
        let holds ← (do
          match test with
          | none => return true
          | some e => return (← evaluate c fuel e).isTrue)
        if holds then
          match afterRound (← execute c fuel body) with
          | some flow => return some flow
          | none => do
            let _ ← execute c fuel step
            return none
        else return some .goesOn
    | .each name array body => do
      let (keys, t) := (← tableOf array).keys
      setTable array t
      throughKeys c fuel name body keys
    | .nextRecord => throw .nextRecord
    | .nextFile => throw .nextFile
    | .leave status => do
      match status with
      | some e => do
        let x := (← evaluate c fuel e).toNumber
        modify fun w => { w with status := (truncated x % 256).toNat }
      | none => pure ()
      throw .leaves
    | .giveBack value => do
      match value with
      | some e => return .returns (← evaluate c fuel e)
      | none => return .returns .unset
    | .breakLoop => return .breaks
    | .continueLoop => return .continues
    | .delete array none => do
      setTable array {}
      return .goesOn
    | .delete array (some subscripts) => do
      let k ← keyOf (← evaluateAll c fuel subscripts)
      setTable array ((← tableOf array).drop k)
      return .goesOn

/-- Carries out statements one after another. -/
def executeAll (c : Code) : (fuel : Nat) → List Stmt → Act Flow
  | 0, _ => throw .busy
  | _, [] => return .goesOn
  | fuel + 1, s :: rest => do
    match ← execute c fuel s with
    | .goesOn => executeAll c fuel rest
    | flow => return flow

/-- Carries out a statement for each of some keys. -/
def throughKeys (c : Code) : (fuel : Nat) → String → Stmt → List String → Act Flow
  | 0, _, _, _ => throw .busy
  | fuel + 1, name, body, keys => do
    match keys with
    | [] => return .goesOn
    | k :: rest => do
      setVariable name (.text k)
      match afterRound (← execute c fuel body) with
      | some flow => return flow
      | none => throughKeys c fuel name body rest

/-- Prints where a statement says. -/
def write (c : Code) : (fuel : Nat) → Option (Outlet × Expr) → String → Act Unit
  | 0, _, _ => throw .busy
  | fuel + 1, target, s => do
    match target with
    | none => printMain s
    | some (outlet, e) => do
      let name ← textOf (← evaluate c fuel e)
      printNamed outlet name s

end

/-- How deep expressions, statements and calls can be nested. -/
def depth : Nat := 20000

def act (c : Code) (action : List Stmt) : Act Unit := do
  let _ ← c.executeAll depth action

def applies (c : Code) (index : Nat) (p : Pattern) : Act Bool := do
  match p with
  | .always => return true
  | .holds e => return (← c.evaluate depth e).isTrue
  | .range first last => do
    let isOpen ← (do
      if (← get).ranges.contains index then return true
      else if (← c.evaluate depth first).isTrue then do
        modify fun w => { w with ranges := index :: w.ranges }
        return true
      else return false)
    if isOpen then
      if (← c.evaluate depth last).isTrue then
        modify fun w => { w with ranges := w.ranges.filter (· ≠ index) }
      return true
    else return false
  | .start | .finish => return false

def rules (c : Code) : (index : Nat) → List Rule → Act Unit
  | _, [] => return ()
  | i, r :: rest => do
    if ← c.applies i r.pattern then c.act r.action
    rules c (i + 1) rest

/-- Goes through the records of the inputs. -/
def records (c : Code) : (turns : Nat) → Act Unit
  | 0 => throw .busy
  | n + 1 => do
    match ← nextRecord manyPieces with
    | none => return ()
    | some s => do
      count "NR"
      count "FNR"
      setRecord s
      try c.rules 0 c.program.recordRules
      catch halt =>
        modify fun w => { w with locals := [] }
        match halt with
        | .nextRecord => pure ()
        | .nextFile => modify fun w => { w with input := none }
        | halt => throw halt
      records c n

/-- Carries out a part of a program; leaving the program is the end of that part only. The answer
says whether it was left. -/
def part (a : Act Unit) : Act Bool := do
  try
    a
    return false
  catch halt =>
    match halt with
    | .leaves => do
      modify fun w => { w with locals := [] }
      return true
    | halt => throw halt

/-- The run of a program. One without rules for records and for the finish reads nothing, and an
early end leaves only the rules for the finish to be carried out. -/
def run (c : Code) : Act Unit := do
  let p := c.program
  let left ← part (p.starts.forM c.act)
  if !left && !(p.recordRules.isEmpty && p.finishes.isEmpty) then
    let _ ← part (c.records manyRounds)
  let _ ← part (p.finishes.forM c.act)
  closeAll

end Code

end RLanguageHost.Utility.Records
