import RLanguageHost.Shell.Format
import RLanguageHost.Text.Regex.Reader
import RLanguageHost.Utility.Basic

/-!
# Exchange of bytes

`tr`: bytes of one set become the bytes at the same places of another set, are deleted, or are
squeezed where they repeat. Sets are written with ranges, classes, escapes and repetitions.
-/

namespace RLanguageHost.Utility.Exchange

inductive Item where
  | byte (b : UInt8)
  | range (first last : UInt8)
  | charClass (name : String)
  /-- A byte so many times; without a number as often as the set needs. -/
  | repeated (b : UInt8) (count : Option Nat)
  deriving Repr, DecidableEq, Inhabited

/-- Why a set or a call cannot be read. -/
inductive Fault where
  | decreasing (shown : String)
  | unknownClass (name : String)
  | missing (after : Option String) (why : String)
  | extra (word why : String)
  | emptySecond
  deriving Repr, Inhabited

def Fault.message : Fault → String
  | .decreasing shown =>
    "range-endpoints of \x27" ++ shown ++ "\x27 are in reverse collating sequence order"
  | .unknownClass name => "invalid character class \x27" ++ name ++ "\x27"
  | .missing none _ => "missing operand" ++ helpHint "tr"
  | .missing (some word) why =>
    "missing operand after \x27" ++ word ++ "\x27\n" ++ why ++ helpHint "tr"
  | .extra word why =>
    "extra operand \x27" ++ word ++ "\x27" ++ (if why = "" then "" else "\n" ++ why)
      ++ helpHint "tr"
  | .emptySecond => "when not truncating set1, string2 must be non-empty"

/-- The characters of a set, each with whether a backslash guards it. -/
def unescaped : (fuel : Nat) → List Char → List (UInt8 × Bool)
  | 0, _ | _, [] => []
  | fuel + 1, '\\' :: c :: rest =>
    let digits := ((c :: rest).take 3).takeWhile Shell.isOctalDigit
    if digits.isEmpty then
      let b := ((Shell.Format.named.lookup c).map Regex.byte).getD (Regex.byte c)
      (b, true) :: unescaped fuel rest
    else
      (UInt8.ofNat (Shell.numberIn 8 digits), true)
        :: unescaped fuel ((c :: rest).drop digits.length)
  | fuel + 1, c :: rest => (Regex.byte c, false) :: unescaped fuel rest

def items : (fuel : Nat) → List (UInt8 × Bool) → Except Fault (List Item)
  | 0, _ | _, [] => .ok []
  | fuel + 1, (a, guarded) :: rest => do
    let text := rest.map fun (b, _) => Char.ofNat b.toNat
    let isOpen := a = Regex.byte '[' && !guarded
    match isOpen, text with
    | true, ':' :: more =>
      let name := more.takeWhile Char.isAlpha
      match more.drop name.length with
      | ':' :: ']' :: _ =>
        let name := String.ofList name
        if (Regex.classes.lookup name).isNone then throw (.unknownClass name)
        return .charClass name :: (← items fuel (rest.drop (name.length + 3)))
      | _ => single fuel a rest
    | true, c :: '*' :: more =>
      let digits := more.takeWhile Char.isDigit
      match more.drop digits.length with
      | ']' :: _ =>
        let n := Shell.numberIn (if digits.head? = some '0' then 8 else 10) digits
        return .repeated (Regex.byte c) (if n = 0 then none else some n)
          :: (← items fuel (rest.drop (digits.length + 3)))
      | _ => single fuel a rest
    | _, _ => single fuel a rest
where
  /-- Reads a byte or a range. -/
  single (fuel : Nat) (a : UInt8) (rest : List (UInt8 × Bool)) : Except Fault (List Item) :=
    match rest with
    | (45, false) :: (b, _) :: more =>
      if b < a then
        .error (.decreasing (String.ofList [Char.ofNat a.toNat, '-', Char.ofNat b.toNat]))
      else (items fuel more).map (.range a b :: ·)
    | _ => (items fuel rest).map (.byte a :: ·)

/-- The bytes of an item, when the set has so many places left. -/
def Item.bytes (places : Nat) : Item → List UInt8
  | .byte b => [b]
  | .range a b => (List.range (b.toNat + 1 - a.toNat)).map fun i => UInt8.ofNat (a.toNat + i)
  | .charClass name =>
    ((Regex.classes.lookup name).getD []).flatMap fun (a, b) =>
      (List.range (b.toNat + 1 - a.toNat)).map fun i => UInt8.ofNat (a.toNat + i)
  | .repeated b count => List.replicate (count.getD places) b

def bytesOf (length : Nat) (all : List Item) : List UInt8 :=
  let fixed := (all.flatMap (Item.bytes 0)).length
  all.flatMap (Item.bytes (length - fixed))

def setOf (s : String) : Except Fault (List Item) :=
  items (s.length + 1) (unescaped (s.length + 1) s.toList)

/-- Drops bytes of a set that repeat the byte before. -/
def squeeze (set : List UInt8) : Option UInt8 → Bytes → Bytes
  | _, [] => []
  | before, b :: rest =>
    if before = some b && set.contains b then squeeze set before rest
    else b :: squeeze set (some b) rest

structure Plan where
  complement : Bool := false
  deletes : Bool := false
  squeezes : Bool := false
  truncates : Bool := false
  first : List Item := []
  second : Option (List Item) := none
  deriving Repr, Inhabited

def Plan.apply (p : Plan) (input : Bytes) : Bytes :=
  let given := bytesOf 0 p.first
  let first :=
    if p.complement then
      ((List.range 256).map UInt8.ofNat).filter fun b => !given.contains b
    else given
  let second := p.second.map (bytesOf first.length)
  if p.deletes then
    let kept := input.filter fun b => !first.contains b
    if p.squeezes then squeeze (second.getD []) none kept else kept
  else
    match second with
    | none => squeeze first none input
    | some second =>
      let first := if p.truncates then first.take second.length else first
      let last := second.getLast?.getD 0
      -- a byte that a set names twice goes by the later place
      let table : List (UInt8 × UInt8) :=
        ((first.zipIdx).map fun (b, i) => (b, (second[i]?).getD last)).reverse
      let output := input.map fun b => (table.lookup b).getD b
      if p.squeezes then squeeze second none output else output

def planOf (o : Options) : Except Fault Plan := do
  let plan : Plan :=
    { complement := o.has 'c' || o.has 'C', deletes := o.has 'd', squeezes := o.has 's'
      truncates := o.has 't' }
  let two := "Two strings must be given when " ++
    (if plan.deletes then "both deleting and squeezing repeats." else "translating.")
  match o.operands with
  | [] => throw (.missing none "")
  | [a] =>
    if plan.deletes == plan.squeezes then throw (.missing (some a) two)
    return { plan with first := ← setOf a }
  | [a, b] =>
    if plan.deletes && !plan.squeezes then
      throw (.extra b "Only one string may be given when deleting without squeezing repeats.")
    if b = "" && !plan.deletes && !plan.truncates then throw .emptySecond
    return { plan with first := ← setOf a, second := some (← setOf b) }
  | _ :: _ :: c :: _ => throw (.extra c "")

def grammar : Grammar where
  flags := "cCdst"
  long := [("complement", 'c'), ("delete", 'd'), ("squeeze-repeats", 's'), ("truncate-set1", 't')]
  permutes := false

/-- What `tr` answers. -/
def run (c : Call) : Answer :=
  c.withOptions grammar 1 fun o =>
    match planOf o with
    | .error fault => .fault "tr" fault.message 1
    | .ok plan => .ofBytes (plan.apply (c.allInput 1).1)

end RLanguageHost.Utility.Exchange
