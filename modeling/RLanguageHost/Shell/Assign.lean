import RLanguageHost.Shell.Arithmetic
import RLanguageHost.Shell.State

/-!
# Assignments of shells

What a value becomes when a variable takes it: variables can be constant, hold numbers only, or hold
letters of one case, and the elements of an array are meant by numbers that may be expressions.
-/

namespace RLanguageHost.Shell

/-- Why something cannot be expanded or assigned. -/
structure Stop where
  text : String
  status : Nat
  /-- Whether the whole shell ends, and not only the line of its script. -/
  ends : Bool
  /-- What has to happen first; then this is no fault. -/
  waits : Option Pending := none
  deriving Repr, DecidableEq, Inhabited

namespace Stop

/-- A fault that ends the line of a script in the larger shell, and all of the small one. -/
def ofLine (d : Dialect) (text : String) : Stop :=
  d.choose { text, status := 2, ends := true } { text, status := 1, ends := false }

def ofShell (d : Dialect) (text : String) : Stop :=
  { text, status := d.choose 2 127, ends := true }

/-- Something has to happen first. -/
def ofPending (p : Pending) : Stop :=
  { text := "", status := 0, ends := false, waits := some p }

end Stop

namespace State

/-- Takes the text that an expansion has waited for. The larger shell takes over the status at
once. -/
def receive (s : State) (p : Pending) : Except Stop (String × State) :=
  match s.received with
  | [] => .error (.ofPending p)
  | (text, status) :: rest =>
    let s := { s with received := rest }
    match status with
    | none => .ok (text, s)
    | some n =>
      .ok (text, { s with outputStatus := some n, status := s.dialect.choose s.status n })

/-- The elements of an array as arithmetic sees them. -/
def element? (s : State) (t : Arithmetic.Target) : Option String :=
  match t.subscript with
  | none => s.value? t.name
  | some key => (s.pairs t.name).lookup key

/-- Puts a value under a key of a variable that may become an array. -/
def assignElement (s : State) (name key value : String) : State :=
  let v := s.bindingOrNew name
  s.bind { v with elements := some (v.asElements.insert key value), value := none }

/-- Takes over what an expression has assigned. -/
def assignNumbers (s : State) (assigned : List (Arithmetic.Target × Int64)) : State :=
  assigned.foldl (fun s a =>
    let text := toString a.2.toInt
    match a.1.subscript with
    | none => s.assign (s.resolve a.1.name) text
    | some key => s.assignElement (s.resolve a.1.name) key text) s

def number (s : State) (source : String) : Except Stop (Int64 × State) :=
  let scope : Arithmetic.Scope :=
    { dialect := s.dialect, lookup := s.element?, isKeyed := s.isKeyed
      needsValues := s.options.needsValues }
  match Arithmetic.eval scope source with
  | .ok (n, assigned) => .ok (n, s.assignNumbers assigned)
  | .error fault =>
    let text := fault.message s.dialect source
    match fault with
    | .unset _ => .error (.ofShell s.dialect text)
    | _ => .error (.ofLine s.dialect text)

/-- What is said about a variable that keeps its value. -/
def constantFault (s : State) (name : String) : Stop :=
  .ofLine s.dialect (name ++ s.dialect.choose ": is read only" ": readonly variable")

/-- Whether a variable keeps its value. -/
def isConstant (s : State) (name : String) : Bool :=
  (s.binding? (s.resolve name)).any (·.attributes.constant)

/-- The text that a variable holds when it takes a text in the place of an old one. -/
def held (s : State) (a : Attributes) (appends : Bool) (old new : String) :
    Except Stop (String × State) := do
  if a.integer then
    let (n, s) ← s.number (if appends then (if old = "" then "0" else old) ++ "+(" ++ new ++ ")"
      else new)
    return (toString n.toInt, s)
  else
    let text := if appends then old ++ new else new
    return (if a.upper then text.map Char.toUpper else if a.lower then text.map Char.toLower
      else text, s)

/-- The key that a subscript means. A negative number counts from the end. -/
def keyOf (s : State) (name subscript : String) : Except Stop (String × State) :=
  if s.isKeyed name then .ok (subscript, s)
  else do
    let (n, s) ← s.number subscript
    if 0 ≤ n then return (toString n.toInt, s)
    else
      let size := ((s.binding? (s.resolve name)).map (·.asElements.endIndex)).getD 0
      let index := (size : Int) + n.toInt
      if index < 0 then
        .error (.ofLine s.dialect (name ++ "[" ++ subscript ++ "]: bad array subscript"))
      else return (toString index, s)

/-- Assigns a text to a variable, or to an element of an array. -/
def take (s : State) (name : String) (subscript : Option String) (appends : Bool)
    (value : String) : Except Stop State := do
  let name := s.resolve name
  if s.isConstant name then throw (s.constantFault name)
  let a := (s.bindingOrNew name).attributes
  match subscript with
  | none =>
    let (text, s) ← s.held a appends ((s.value? name).getD "") value
    return s.assign name text
  | some subscript =>
    let (key, s) ← s.keyOf name subscript
    let (text, s) ← s.held a appends (((s.pairs name).lookup key).getD "") value
    return s.assignElement name key text

end State

end RLanguageHost.Shell
