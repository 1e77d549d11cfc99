import RLanguageHost.Shell.Word

/-!
# Shell variables

A variable holds a text or, in the larger shell, an array: of texts at numbers, or of texts under
names. Arrays under names are gone through in an order that a hash of the names gives.
-/

namespace RLanguageHost.Shell

inductive Elements where
  /-- At numbers, in increasing order. -/
  | indexed (all : List (Nat × String))
  /-- Under names, in the order in which they were put in. -/
  | keyed (all : List (String × String))
  deriving Repr, DecidableEq, Inhabited

structure Attributes where
  /-- Whether commands that the shell starts get it. -/
  exported : Bool := false
  /-- Whether it keeps its value. -/
  constant : Bool := false
  /-- Whether values are numbers. -/
  integer : Bool := false
  /-- Whether values are in small letters. -/
  lower : Bool := false
  /-- Whether values are in large letters. -/
  upper : Bool := false
  /-- Whether the value is the name of the variable that is meant. -/
  reference : Bool := false
  deriving Repr, DecidableEq, Inhabited

structure Variable where
  name : String
  /-- The text; none if there is no value. -/
  value : Option String := none
  elements : Option Elements := none
  attributes : Attributes := {}
  deriving Repr, DecidableEq, Inhabited

namespace Elements

/-- The buckets of the table that names are kept in. -/
def bucketCount : Nat := 1024

/-- The bucket of a name: a hash of its bytes. -/
def bucket (name : String) : Nat :=
  (name.toList.foldl (fun (h : UInt32) c => (h * 16777619) ^^^ c.toNat.toUInt32)
    2166136261).toNat % bucketCount

/-- The elements with their keys, in the order in which they are gone through. -/
def toList : Elements → List (String × String)
  | .indexed all => all.map fun e => (toString e.1, e.2)
  | .keyed all => all.reverse.mergeSort fun a b => bucket a.1 ≤ bucket b.1

def get? (e : Elements) (key : String) : Option String :=
  match e with
  | .indexed all => key.toNat?.bind (all.lookup ·)
  | .keyed all => all.lookup key

def insertAt (n : Nat) (text : String) : List (Nat × String) → List (Nat × String)
  | [] => [(n, text)]
  | e :: rest =>
    if n < e.1 then (n, text) :: e :: rest
    else if n = e.1 then (n, text) :: rest
    else e :: insertAt n text rest

def insert (e : Elements) (key text : String) : Elements :=
  match e with
  | .indexed all => .indexed (insertAt (key.toNat?.getD 0) text all)
  | .keyed all =>
    if all.any (·.1 = key) then .keyed (all.map fun o => if o.1 = key then (key, text) else o)
    else .keyed (all ++ [(key, text)])

/-- Takes the element under a key away. -/
def erase (e : Elements) (key : String) : Elements :=
  match e with
  | .indexed all => .indexed (all.filter fun o => some o.1 ≠ key.toNat?)
  | .keyed all => .keyed (all.filter (·.1 ≠ key))

/-- One more than the largest number of an element. -/
def endIndex : Elements → Nat
  | .indexed all => (all.getLast?.map (·.1 + 1)).getD 0
  | .keyed _ => 0

end Elements

namespace Variable

/-- The text that a variable stands for: an array stands for its element at zero. -/
def text? (v : Variable) : Option String :=
  match v.elements with
  | none => v.value
  | some e => e.get? "0"

/-- The elements of a variable with their keys; one that is no array has one element. -/
def pairs (v : Variable) : List (String × String) :=
  match v.elements with
  | some e => e.toList
  | none => (v.value.map fun t => ("0", t)).toList

def asElements (v : Variable) : Elements :=
  v.elements.getD (.indexed (v.value.map fun t => (0, t)).toList)

end Variable

end RLanguageHost.Shell
