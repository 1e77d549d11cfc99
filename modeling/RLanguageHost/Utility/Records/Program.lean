import RLanguageHost.Text.Regex

/-!
# Programs over records

What a program that works through the records of its input is made of: rules with patterns and
actions, functions, statements and expressions.
-/

namespace RLanguageHost.Utility.Records

/-- A way to calculate with two numbers. -/
inductive Operation where
  | add
  | subtract
  | multiply
  | divide
  | remainder
  | power
  deriving Repr, DecidableEq, Inhabited

/-- A way to compare two values. -/
inductive Comparison where
  | less
  | atMost
  | same
  | different
  | more
  | atLeast
  deriving Repr, DecidableEq, Inhabited

inductive Expr where
  | number (x : Float)
  | text (s : String)
  /-- Whether the record has a match, or where an operation asks for one, the expression itself. -/
  | regex (r : Regex)
  | variable (name : String)
  /-- An expression in parentheses. -/
  | group (e : Expr)
  | field (index : Expr)
  | element (array : String) (subscripts : List Expr)
  | assign (operation : Option Operation) (target value : Expr)
  /-- Counts up or down; the value is the one before or after that. -/
  | step (before : Bool) (up : Bool) (target : Expr)
  | choose (test yes no : Expr)
  | both (first second : Expr)
  | either (first second : Expr)
  | not (e : Expr)
  | negative (e : Expr)
  | positive (e : Expr)
  | calculate (operation : Operation) (first second : Expr)
  | join (first second : Expr)
  | compare (comparison : Comparison) (first second : Expr)
  | isMatch (e pattern : Expr)
  | contains (subscripts : List Expr) (array : String)
  | call (function : String) (arguments : List Expr)
  | builtin (function : String) (arguments : List Expr)
  /-- The next record of the input. -/
  | next (target : Option Expr)
  | nextOfFile (path : Expr) (target : Option Expr)
  | nextOfCommand (command : Expr) (target : Option Expr)
  deriving Repr, Inhabited

/-- Whether something can be assigned to an expression. -/
def Expr.isTarget : Expr → Bool
  | .variable _ | .field _ | .element .. => true
  | _ => false

inductive Outlet where
  | file
  | fileEnd
  | command
  deriving Repr, DecidableEq, Inhabited

inductive Stmt where
  | evaluate (e : Expr)
  | print (arguments : List Expr) (target : Option (Outlet × Expr))
  | printFormatted (arguments : List Expr) (target : Option (Outlet × Expr))
  | block (body : List Stmt)
  | branch (test : Expr) (yes no : Stmt)
  | loop (test : Expr) (body : Stmt)
  | loopAfter (body : Stmt) (test : Expr)
  | counted (start : Stmt) (test : Option Expr) (step body : Stmt)
  | each (name array : String) (body : Stmt)
  | nextRecord
  | nextFile
  | leave (status : Option Expr)
  | giveBack (value : Option Expr)
  | breakLoop
  | continueLoop
  | delete (array : String) (subscripts : Option (List Expr))
  deriving Repr, Inhabited

/-- When the action of a rule is carried out. -/
inductive Pattern where
  | start
  | finish
  | always
  | holds (e : Expr)
  /-- From a record of which one holds up to one of which another holds. -/
  | range (first last : Expr)
  deriving Repr, Inhabited

structure Rule where
  pattern : Pattern
  action : List Stmt
  deriving Repr, Inhabited

structure Function where
  name : String
  parameters : List String
  body : List Stmt
  deriving Repr, Inhabited

structure Program where
  rules : List Rule := []
  functions : List Function := []
  deriving Repr, Inhabited

namespace Program

def function? (p : Program) (name : String) : Option Function :=
  p.functions.find? (·.name = name)

def actions (p : Program) (isOf : Pattern → Bool) : List (List Stmt) :=
  (p.rules.filter fun r => isOf r.pattern).map (·.action)

/-- The actions before the first record. -/
def starts (p : Program) : List (List Stmt) :=
  p.actions fun | .start => true | _ => false

/-- The actions after the last record. -/
def finishes (p : Program) : List (List Stmt) :=
  p.actions fun | .finish => true | _ => false

def recordRules (p : Program) : List Rule :=
  p.rules.filter fun r =>
    match r.pattern with
    | .start | .finish => false
    | _ => true

end Program

mutual

/-- The names that an expression uses as arrays, if some parameters of functions are arrays. -/
def Expr.arrays (isArray : String → Nat → Bool) : Expr → List String
  | .element a subscripts => a :: arraysOf isArray subscripts
  | .contains subscripts a => a :: arraysOf isArray subscripts
  | .group e | .field e | .not e | .negative e | .positive e | .step _ _ e => e.arrays isArray
  | .assign _ a b | .both a b | .either a b | .calculate _ a b | .join a b | .compare _ a b
  | .isMatch a b => a.arrays isArray ++ b.arrays isArray
  | .choose a b c => a.arrays isArray ++ b.arrays isArray ++ c.arrays isArray
  | .call f arguments => passed isArray f 0 arguments
  | .builtin "split" (s :: .variable a :: rest) => a :: s.arrays isArray ++ arraysOf isArray rest
  | .builtin _ arguments => arraysOf isArray arguments
  | .next (some e) => e.arrays isArray
  | .nextOfFile a (some b) | .nextOfCommand a (some b) => a.arrays isArray ++ b.arrays isArray
  | .nextOfFile a none | .nextOfCommand a none => a.arrays isArray
  | .next none | .number _ | .text _ | .regex _ | .variable _ => []

/-- The names that some expressions use as arrays. -/
def arraysOf (isArray : String → Nat → Bool) : List Expr → List String
  | [] => []
  | e :: rest => e.arrays isArray ++ arraysOf isArray rest

/-- The names that are used as arrays in the arguments of a call. -/
def passed (isArray : String → Nat → Bool) (f : String) (i : Nat) : List Expr → List String
  | [] => []
  | .variable x :: rest =>
    (if isArray f i then [x] else []) ++ passed isArray f (i + 1) rest
  | e :: rest => e.arrays isArray ++ passed isArray f (i + 1) rest

end

mutual

/-- The names that a statement uses as arrays. -/
def Stmt.arrays (isArray : String → Nat → Bool) : Stmt → List String
  | .evaluate e => e.arrays isArray
  | .print es target | .printFormatted es target =>
    arraysOf isArray es ++ (match target with | some (_, e) => e.arrays isArray | none => [])
  | .block body => arraysOfAll isArray body
  | .branch test yes no => test.arrays isArray ++ yes.arrays isArray ++ no.arrays isArray
  | .loop test body | .loopAfter body test => test.arrays isArray ++ body.arrays isArray
  | .counted start test step body =>
    start.arrays isArray ++ (match test with | some e => e.arrays isArray | none => [])
      ++ step.arrays isArray ++ body.arrays isArray
  | .each _ a body => a :: body.arrays isArray
  | .leave (some e) | .giveBack (some e) => e.arrays isArray
  | .delete a subscripts => a ::
      (match subscripts with | some es => arraysOf isArray es | none => [])
  | .leave none | .giveBack none | .nextRecord | .nextFile | .breakLoop | .continueLoop => []

/-- The names that some statements use as arrays. -/
def arraysOfAll (isArray : String → Nat → Bool) : List Stmt → List String
  | [] => []
  | s :: rest => s.arrays isArray ++ arraysOfAll isArray rest

end

/-- The parameters of functions that are arrays: those that a function uses as such, and those that
it hands on to parameters that are arrays. -/
def Program.arrayParameters (p : Program) : List (String × List Bool) :=
  p.functions.foldl (fun known _ => refine known) (p.functions.map fun f => (f.name, []))
where
  /-- Looks at all functions once. -/
  refine (known : List (String × List Bool)) : List (String × List Bool) :=
    p.functions.map fun f =>
      let used := arraysOfAll (fun g i => ((known.lookup g).getD []).getD i false) f.body
      (f.name, f.parameters.map used.contains)

end RLanguageHost.Utility.Records
