/-!
# JSON values

A number is an integer where it is written as one and fits into 64 bits, signed or unsigned, and a
64-bit floating-point number otherwise. The members of an object are kept in a list. A reader
yields them in the order of the text, repetitions included; `normalize` sorts them by key and keeps
the last of several equal keys, which is the form in which values are stored and sent.
-/

namespace RLanguageHost

inductive Json where
  | null
  | bool (b : Bool)
  | int (n : Int)
  | float (x : Float)
  | str (s : String)
  | arr (items : List Json)
  | obj (members : List (String × Json))
  deriving Inhabited

namespace Json

/-- Puts a member into members sorted by key, in the place of one with the same key. -/
def insertMember (key : String) (value : Json) : List (String × Json) → List (String × Json)
  | [] => [(key, value)]
  | (k, v) :: rest =>
    if key < k then (key, value) :: (k, v) :: rest
    else if key = k then (key, value) :: rest
    else (k, v) :: insertMember key value rest

/-- An object with the given members, sorted by key; of equal keys the last one counts. -/
def ofMembers (members : List (String × Json)) : Json :=
  .obj (members.foldl (fun sorted m => insertMember m.1 m.2 sorted) [])

mutual

/-- The same value with the members of every object sorted and without repeated keys. -/
def normalize : Json → Json
  | .arr items => .arr (normalizeItems items)
  | .obj members => ofMembers (normalizeMembers members)
  | value => value

def normalizeItems : List Json → List Json
  | [] => []
  | item :: rest => normalize item :: normalizeItems rest

/-- `normalize` on each member's value. -/
def normalizeMembers : List (String × Json) → List (String × Json)
  | [] => []
  | (key, value) :: rest => (key, normalize value) :: normalizeMembers rest

end

/-- The value of a member, the last one of several with the same key. -/
def member? (value : Json) (key : String) : Option Json :=
  match value with
  | .obj members => (members.reverse.find? (·.1 = key)).map (·.2)
  | _ => none

def str? : Json → Option String
  | .str s => some s
  | _ => none

/-- The value of a truth value. -/
def bool? : Json → Option Bool
  | .bool b => some b
  | _ => none

/-- A whole number that is not negative. -/
def nat? : Json → Option Nat
  | .int n => if 0 ≤ n then some n.toNat else none
  | _ => none

def items? : Json → Option (List Json)
  | .arr items => some items
  | _ => none

end Json

end RLanguageHost
