import RLanguageHost.Utility.Lines

/-!
# Columns of lines

Utilities that look at fields of lines: parts of lines are cut out, and lines that agree are counted
or compared.
-/

namespace RLanguageHost.Utility.Columns

/-- The numbers from one to another one, or from one on. -/
structure Span where
  first : Nat
  last : Option Nat
  deriving Repr, DecidableEq, Inhabited

/-- Why a list of numbers cannot be read. -/
inductive ListFault where
  | zero
  | decreasing
  | noNumber (text : String)
  | noEndpoint
  deriving Repr, DecidableEq, Inhabited

def spanOf (item : String) : Except ListFault Span := do
  let number (text : String) : Except ListFault Nat :=
    match text.toNat? with
    | some 0 => .error .zero
    | some n => if text.toList.all Char.isDigit then .ok n else .error (.noNumber item)
    | none => .error (.noNumber item)
  match item.splitOn "-" with
  | [n] =>
    let n ← number n
    return ⟨n, some n⟩
  | ["", ""] => throw .noEndpoint
  | ["", n] => return ⟨1, some (← number n)⟩
  | [n, ""] => return ⟨← number n, none⟩
  | [a, b] =>
    let first ← number a
    let last ← number b
    if last < first then throw .decreasing
    return ⟨first, some last⟩
  | _ => throw (.noNumber item)

def spansOf (text : String) : Except ListFault (List Span) :=
  ((text.split fun c => c = ',' || c = ' ').toList.map (·.toString)).mapM spanOf

def contains (spans : List Span) (n : Nat) : Bool :=
  spans.any fun s => s.first ≤ n && s.last.all (n ≤ ·)

def begins (spans : List Span) (n : Nat) : Bool :=
  contains spans n && !(1 < n && contains spans (n - 1)) || spans.any (·.first = n)

def cutGrammar : Grammar where
  flags := "nsz!"
  valued := "bcfdo"
  long := [("bytes", 'b'), ("characters", 'c'), ("fields", 'f'), ("delimiter", 'd'),
    ("only-delimited", 's'), ("complement", '!'), ("output-delimiter", 'o')]

def cut (c : Call) : Answer :=
  c.withOptions cutGrammar 1 fun o =>
    let fault (text : String) : Answer := .fault "cut" (text ++ helpHint "cut") 1
    let lists := o.given.filter fun g => "bcf".toList.contains g.1
    let mark := (o.value? 'd').getD "\t"
    match lists with
    | [] => fault "you must specify a list of bytes, characters, or fields"
    | _ :: _ :: _ => fault "only one list may be specified"
    | [(kind, text)] =>
      let byFields := kind = 'f'
      if 1 < mark.length then fault "the delimiter must be a single character"
      else if !byFields && (o.value? 'd').isSome then
        fault "an input delimiter may be specified only when operating on fields"
      else if !byFields && o.has 's' then
        fault ("suppressing non-delimited lines makes sense\n\tonly when operating on fields")
      else
        match spansOf text with
        | .error .zero =>
          fault (if byFields then "fields are numbered from 1"
            else "byte/character positions are numbered from 1")
        | .error .decreasing => fault "invalid decreasing range"
        | .error .noEndpoint => fault "invalid range with no endpoint: -"
        | .error (.noNumber t) =>
          fault ("invalid " ++ (if byFields then "field value" else "byte/character position")
            ++ " \x27" ++ t ++ "\x27")
        | .ok spans =>
          let chosen (n : Nat) : Bool := contains spans n != o.has '!'
          let byte : UInt8 := (mark.toList.head?.map fun c => UInt8.ofNat c.toNat).getD 0
          let joint := ((o.value? 'o').map Shell.rawOf).getD (if byFields then [byte] else [])
          let line (l : Bytes) : Option Bytes :=
            if byFields then
              let fields := FilePath.splitOn byte l
              if fields.length ≤ 1 then if o.has 's' then none else some l
              else
                let kept := ((fields.zipIdx 1).filter fun f => chosen f.2).map (·.1)
                some (joint.intercalate kept)
            else
              let kept := (l.zipIdx 1).filter fun b => chosen b.2
              some (kept.zipIdx.flatMap fun ((b, n), i) =>
                (if i ≠ 0 && begins spans n && !contains spans (n - 1) then joint else []) ++ [b])
          let one (i : Input) (bs : Bytes) : Answer :=
            if i.content.toOption.isNone then {}
            else .ofBytes (unlines ((linesOf bs).filterMap line))
          c.eachInput 1 one

/-- What of a line counts where lines are compared. -/
structure Comparison where
  skippedFields : Nat := 0
  skippedBytes : Nat := 0
  width : Option Nat := none
  ignoresCase : Bool := false
  deriving Repr, Inhabited

/-- A line without its first fields, each with the blanks before it. -/
def dropFields : Nat → Bytes → Bytes
  | 0, l => l
  | n + 1, l =>
    let l := l.dropWhile fun b => b = 32 || b = 9
    dropFields n (l.dropWhile fun b => b ≠ 32 && b ≠ 9)

/-- The part of a line that counts. -/
def Comparison.key (c : Comparison) (line : Bytes) : Bytes :=
  let rest := (dropFields c.skippedFields line).drop c.skippedBytes
  let rest := (c.width.map rest.take).getD rest
  if c.ignoresCase then lowered rest else rest

/-- Lines after each other that agree, with how many they are. -/
def runs (key : Bytes → Bytes) : List Bytes → List (Bytes × Nat)
  | [] => []
  | line :: rest =>
    match runs key rest with
    | [] => [(line, 1)]
    | (next, n) :: more =>
      if key line = key next then (line, n + 1) :: more else (line, 1) :: (next, n) :: more

def uniqGrammar : Grammar where
  flags := "cduiDz"
  valued := "fsw"
  long := [("count", 'c'), ("repeated", 'd'), ("unique", 'u'), ("ignore-case", 'i'),
    ("skip-fields", 'f'), ("skip-chars", 's'), ("check-chars", 'w'), ("all-repeated", 'D')]

/-- What `uniq` answers: lines that repeat the line before are left out. -/
def unique (c : Call) : Answer :=
  c.withOptions uniqGrammar 1 fun o =>
    let number (l : Char) : Option Nat := (o.value? l).bind String.toNat?
    let comparison : Comparison :=
      { skippedFields := (number 'f').getD 0, skippedBytes := (number 's').getD 0
        width := number 'w', ignoresCase := o.has 'i' }
    c.eachInput 1 fun _ bs =>
      let found := runs comparison.key (linesOf bs)
      let found := found.filter fun (_, n) =>
        !(o.has 'd' && n = 1) && !(o.has 'u' && n ≠ 1) && !(o.has 'D' && n = 1)
      .ofBytes (unlines (found.flatMap fun (line, n) =>
        if o.has 'c' then [Shell.rawOf (padded 7 n ++ " ") ++ line]
        else if o.has 'D' then List.replicate n line
        else [line]))

/-- The lines of two inputs that are sorted, each in its column. -/
def merged (hides : Nat → Bool) (mark : Bytes) :
    (fuel : Nat) → List Bytes → List Bytes → List Bytes
  | 0, _, _ => []
  | _, [], [] => []
  | fuel + 1, a :: as, [] => column 1 a ++ merged hides mark fuel as []
  | fuel + 1, [], b :: bs => column 2 b ++ merged hides mark fuel [] bs
  | fuel + 1, a :: as, b :: bs =>
    if a = b then column 3 a ++ merged hides mark fuel as bs
    else if atMost a b then column 1 a ++ merged hides mark fuel as (b :: bs)
    else column 2 b ++ merged hides mark fuel (a :: as) bs
where
  /-- A line in a column. -/
  column (n : Nat) (line : Bytes) : List Bytes :=
    if hides n then []
    else
      let before := ((List.range n).filter fun k => 1 ≤ k && !hides k).length
      [(List.replicate before mark).flatten ++ line]

/-- What `comm` answers: the lines of two inputs, by whether they are in both. -/
def common (c : Call) : Answer :=
  c.withOptions { flags := "123", long := [] } 1 fun o =>
    match c.inputs with
    | [a, b] =>
      match a.content, b.content with
      | .ok x, .ok y =>
        let hides (n : Nat) : Bool := o.has (Char.ofNat (48 + n))
        let (x, y) := (linesOf x, linesOf y)
        .ofBytes (unlines (merged hides [9] (x.length + y.length + 1) x y))
      | .error e, _ => .fault "comm" (a.name ++ ": " ++ describe e) 1
      | _, .error e => .fault "comm" (b.name ++ ": " ++ describe e) 1
    | _ => .fault "comm" ("missing operand" ++ helpHint "comm") 1

end RLanguageHost.Utility.Columns
