import RLanguageHost.Utility.Lines

/-!
# Sorted lines

`sort`: lines are compared by keys, which are parts of lines read in some way, and at last as a
whole.
-/

namespace RLanguageHost.Utility.Sort

structure Manner where
  numeric : Bool := false
  general : Bool := false
  human : Bool := false
  version : Bool := false
  reverse : Bool := false
  fold : Bool := false
  dictionary : Bool := false
  printable : Bool := false
  skipsBlanks : Bool := false
  deriving Repr, DecidableEq, Inhabited

/-- A place in the fields of a line, and whether blanks before it count. -/
structure Position where
  field : Nat
  byte : Nat := 0
  skipsBlanks : Bool := false
  deriving Repr, Inhabited

/-- A key: from a place up to another one or to the end. -/
structure Key where
  start : Position
  stop : Option Position := none
  manner : Option Manner := none
  deriving Repr, Inhabited

def Manner.with (m : Manner) (c : Char) : Option Manner :=
  match c with
  | 'n' => some { m with numeric := true }
  | 'g' => some { m with general := true }
  | 'h' => some { m with human := true }
  | 'V' => some { m with version := true }
  | 'r' => some { m with reverse := true }
  | 'f' => some { m with fold := true }
  | 'd' => some { m with dictionary := true }
  | 'i' => some { m with printable := true }
  | 'b' => some { m with skipsBlanks := true }
  | 'M' => some m
  | _ => none

def keyOf (text : String) : Except String Key := do
  let (start, letters, rest) ← position text.toList true
  let (stop, more, rest) ← (match rest with
    | ',' :: rest => do
      let (p, letters, rest) ← position rest false
      return (some p, letters, rest)
    | rest => pure (none, [], rest))
  if !rest.isEmpty then throw ("stray character in field spec: invalid field specification \x27"
    ++ text ++ "\x27")
  let all := letters ++ more
  let manner := (all.filter (· ≠ 'b')).foldl (fun m c => (m.with c).getD m) ({} : Manner)
  return {
    start := { start with skipsBlanks := letters.contains 'b' }
    stop := stop.map fun p => { p with skipsBlanks := more.contains 'b' }
    manner := if all.isEmpty then none else some manner }
where
  /-- Reads a place with the letters after it. -/
  position (cs : List Char) (isStart : Bool) :
      Except String (Position × List Char × List Char) := do
    let digits := cs.takeWhile Char.isDigit
    let rest := cs.drop digits.length
    if digits.isEmpty then
      throw ("invalid number " ++ (if isStart then "at field start" else "after \x27,\x27")
        ++ ": invalid count at start of \x27" ++ String.ofList cs ++ "\x27")
    let field := Shell.numberIn 10 digits
    if field = 0 then
      throw ("field number is zero: invalid field specification \x27" ++ text ++ "\x27")
    let (byte, rest) :=
      match rest with
      | '.' :: more =>
        let d := more.takeWhile Char.isDigit
        (Shell.numberIn 10 d, more.drop d.length)
      | rest => (if isStart then 1 else 0, rest)
    let letters := rest.takeWhile Char.isAlpha
    return ({ field, byte }, letters, rest.drop letters.length)

/-- The offsets at which the fields of a line start and end. Without a separator a field has the
blanks before it. -/
def fieldSpans (separator : Option UInt8) (line : Bytes) : List (Nat × Nat) :=
  match separator with
  | some s =>
    ((FilePath.splitOn s line).foldl (fun ((spans, at_) : List (Nat × Nat) × Nat) f =>
      (spans ++ [(at_, at_ + f.length)], at_ + f.length + 1)) ([], 0)).1
  | none =>
    let groups := line.splitBy fun a b => !(!isBlank a && isBlank b)
    (groups.foldl (fun ((spans, at_) : List (Nat × Nat) × Nat) f =>
      (spans ++ [(at_, at_ + f.length)], at_ + f.length)) ([], 0)).1
where
  /-- Whether a byte is a blank. -/
  isBlank (b : UInt8) : Bool := b = 32 || b = 9

def Key.text (k : Key) (separator : Option UInt8) (skips : Bool) (line : Bytes) : Bytes :=
  let spans := fieldSpans separator line
  let blanksAt (n : Nat) : Nat :=
    ((line.drop n).takeWhile fun b => b = 32 || b = 9).length
  let start :=
    match spans[k.start.field - 1]? with
    | none => line.length
    | some (a, _) =>
      let a := if k.start.skipsBlanks || skips then a + blanksAt a else a
      min line.length (a + (k.start.byte - 1))
  let stop :=
    match k.stop with
    | none => line.length
    | some p =>
      match spans[p.field - 1]? with
      | none => line.length
      | some (a, b) =>
        if p.byte = 0 then b
        else min line.length ((if p.skipsBlanks || skips then a + blanksAt a else a) + p.byte)
  (line.take stop).drop start

/-- A decimal number at the start of a text: whether it is negative, its digits before the point
without zeros at the start, and those after it without zeros at the end. -/
def leadingNumber (bs : Bytes) : Bool × Bytes × Bytes :=
  let bs := bs.dropWhile isSpace
  let negative := bs.head? = some 45
  let bs := if negative then bs.drop 1 else bs
  let isDigit (b : UInt8) : Bool := 48 ≤ b && b ≤ 57
  let whole := bs.takeWhile isDigit
  let rest := bs.drop whole.length
  let part := if rest.head? = some 46 then (rest.drop 1).takeWhile isDigit else []
  let whole := whole.dropWhile (· = 48)
  let part := (part.reverse.dropWhile (· = 48)).reverse
  (negative && !(whole.isEmpty && part.isEmpty), whole, part)

/-- Whether one number without a sign is less than another one. -/
def magnitudeLess (a b : Bytes × Bytes) : Bool :=
  if a.1.length ≠ b.1.length then a.1.length < b.1.length
  else if a.1 ≠ b.1 then decide (a.1 < b.1)
  else decide (a.2 < b.2)

def compareNumbers (a b : Bool × Bytes × Bytes) : Ordering :=
  let order (x y : Bytes × Bytes) : Ordering :=
    if magnitudeLess x y then .lt else if magnitudeLess y x then .gt else .eq
  match a.1, b.1 with
  | true, false => .lt
  | false, true => .gt
  | false, false => order a.2 b.2
  | true, true => order b.2 a.2

/-- The order of two byte strings. -/
def compareBytes (a b : Bytes) : Ordering :=
  if a = b then .eq else if decide (a < b) then .lt else .gt

def unitRank (bs : Bytes) : Nat :=
  let rest := (bs.dropWhile isSpace).dropWhile fun b => b = 45 || b = 46 || (48 ≤ b && b ≤ 57)
  match rest.head? with
  | some b => ("KMGTPEZY".toList.findIdx? fun c => c.toNat = b.toNat
      || c.toNat + 32 = b.toNat).map (· + 1) |>.getD 0
  | none => 0

def versionPieces (bs : Bytes) : List Bytes :=
  bs.splitBy fun a b => (48 ≤ a && a ≤ 57) == (48 ≤ b && b ≤ 57)

/-- The order of two names with version numbers in them. -/
def compareVersions : List Bytes → List Bytes → Ordering
  | [], [] => .eq
  | [], _ :: _ => .lt
  | _ :: _, [] => .gt
  | a :: as, b :: bs =>
    let isNumber (x : Bytes) : Bool := x.head?.any fun c => 48 ≤ c && c ≤ 57
    let first :=
      if isNumber a && isNumber b then compareNumbers (leadingNumber a) (leadingNumber b)
      else compareBytes a b
    if first = .eq then compareVersions as bs else first

/-- The order of two keys. -/
def Manner.compare (m : Manner) (a b : Bytes) : Ordering :=
  let result :=
    if m.numeric || m.general then compareNumbers (leadingNumber a) (leadingNumber b)
    else if m.human then
      let ranks := Ord.compare (unitRank a) (unitRank b)
      if ranks = .eq then compareNumbers (leadingNumber a) (leadingNumber b) else ranks
    else if m.version then compareVersions (versionPieces a) (versionPieces b)
    else compareBytes (shape a) (shape b)
  if m.reverse then result.swap else result
where
  /-- What of a text counts. -/
  shape (x : Bytes) : Bytes :=
    let x := if m.dictionary then
        x.filter fun c => c = 32 || c = 9 || (Char.ofNat c.toNat).isAlphanum
      else x
    let x := if m.printable then x.filter fun c => 32 ≤ c && c < 127 else x
    if m.fold then x.map fun c => if 97 ≤ c && c ≤ 122 then c - 32 else c else x

structure Plan where
  manner : Manner := {}
  keys : List Key := []
  separator : Option UInt8 := none
  stable : Bool := false
  unique : Bool := false
  deriving Repr, Inhabited

/-- The order of two lines by the keys alone. -/
def Plan.compareKeys (p : Plan) (a b : Bytes) : Ordering :=
  if p.keys.isEmpty then
    if p.manner = { reverse := p.manner.reverse } then
      let r := compareBytes a b
      if p.manner.reverse then r.swap else r
    else
      let skip (x : Bytes) : Bytes :=
        if p.manner.skipsBlanks then x.dropWhile fun c => c = 32 || c = 9 else x
      p.manner.compare (skip a) (skip b)
  else
    p.keys.foldl (fun found k =>
      if found ≠ .eq then found
      else
        let m := k.manner.getD p.manner
        let skips := k.manner.isNone && p.manner.skipsBlanks
        m.compare (k.text p.separator skips a) (k.text p.separator skips b)) .eq

/-- Whether one line may come before another one. -/
def Plan.isOrdered (p : Plan) (a b : Bytes) : Bool :=
  match p.compareKeys a b with
  | .lt => true
  | .gt => false
  | .eq =>
    if p.stable || p.unique then true
    else if p.manner.reverse then atMost b a
    else atMost a b

def Plan.sorted (p : Plan) (lines : List Bytes) : List Bytes :=
  let all := lines.mergeSort p.isOrdered
  if p.unique then thin all else all
where
  /-- Lines without those that agree with the one before. -/
  thin (ls : List Bytes) : List Bytes :=
    (ls.foldl (fun (kept : List Bytes) l =>
      match kept with
      | last :: _ => if p.compareKeys last l = .eq then kept else l :: kept
      | [] => [l]) []).reverse

def grammar : Grammar where
  flags := "bdfghiMnRrVcCmsuz"
  valued := "kotSTB"
  long := [("reverse", 'r'), ("numeric-sort", 'n'), ("unique", 'u'), ("key", 'k'),
    ("field-separator", 't'), ("output", 'o'), ("stable", 's'), ("ignore-case", 'f'),
    ("ignore-leading-blanks", 'b'), ("version-sort", 'V'), ("human-numeric-sort", 'h'),
    ("general-numeric-sort", 'g'), ("check", 'c'), ("dictionary-order", 'd'), ("merge", 'm')]

def planOf (o : Options) : Except String Plan := do
  let manner := o.given.foldl (fun m g => (m.with g.1).getD m) ({} : Manner)
  let keys ← (o.values 'k').mapM keyOf
  let separator ← (match o.value? 't' with
    | none => pure none
    | some "" => throw "empty tab"
    | some "\\0" => pure (some (0 : UInt8))
    | some t =>
      if t.length = 1 then pure ((Shell.rawOf t).head?)
      else throw ("multi-character tab \x27" ++ t ++ "\x27"))
  return { manner, keys, separator, stable := o.has 's', unique := o.has 'u' }

/-- The first line that is out of order, with its number. -/
def firstDisorder (p : Plan) (n : Nat) : List Bytes → Option (Nat × Bytes)
  | a :: b :: rest =>
    let fine := if p.unique then p.compareKeys a b = .lt else p.isOrdered a b
    if fine then firstDisorder p (n + 1) (b :: rest) else some (n + 1, b)
  | _ => none

def run (c : Call) : Answer :=
  c.withOptions grammar 2 fun o =>
    match planOf o with
    | .error text => .fault "sort" text 2
    | .ok plan =>
      match c.inputs.find? fun i => i.content.toOption.isNone with
      | some i =>
        match i.content with
        | .error e => .fault "sort" ("cannot read: " ++ i.name ++ ": " ++ describe e) 2
        | .ok _ => {}
      | none =>
        let lines := c.inputs.flatMap fun i => linesOf (i.content.toOption.getD [])
        if o.has 'c' || o.has 'C' then
          match firstDisorder plan 1 lines with
          | none => {}
          | some (n, line) =>
            if o.has 'C' then .ofStatus 1
            else
              let name := (c.inputs.head?.map (·.name)).getD "-"
              { pieces := [(2, Shell.rawOf ("sort: " ++ name ++ ":" ++ toString n ++ ": disorder: ")
                  ++ line ++ [10])], status := 1 }
        else
          let out := unlines (plan.sorted lines)
          match o.value? 'o' with
          | none => .ofBytes out
          | some path =>
            match c.tree.locateForWriting ⟨Shell.rawOf (pathText c.directory)⟩
                ⟨Shell.rawOf path⟩ with
            | .ok (place, _) => { tree := some ((c.tree.emptyAt place).appendAt place out) }
            | .error e => .fault "sort" ("open failed: " ++ path ++ ": " ++ describe e) 2

end RLanguageHost.Utility.Sort
