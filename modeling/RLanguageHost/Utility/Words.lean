import RLanguageHost.Shell.Criterion
import RLanguageHost.Text.Regex.Reader
import RLanguageHost.Utility.Basic

/-!
# Utilities on words

Utilities whose answer depends on their arguments and surroundings alone: numbers in a row,
expressions, parts of paths, conditions, and what there is to know about the machine.
-/

namespace RLanguageHost.Utility.Words

/-- A call that cannot be understood. -/
def misuse (c : Call) (text : String) (status : Nat) : Answer :=
  .fault c.name (text ++ helpHint c.name) status

/-- A decimal: an integer without its point, and the digits after the point. -/
structure Decimal where
  digits : Int
  places : Nat
  deriving Repr, DecidableEq, Inhabited

def decimal? (text : String) : Option Decimal :=
  let cs := text.toList
  let negative := cs.head? = some '-'
  let cs := if negative || cs.head? = some '+' then cs.drop 1 else cs
  let whole := cs.takeWhile Char.isDigit
  let part? : Option (List Char) :=
    match cs.drop whole.length with
    | [] => some []
    | '.' :: part => if part.all Char.isDigit then some part else none
    | _ => none
  part?.bind fun part =>
    if whole.isEmpty && part.isEmpty then none
    else
      let n : Int := Shell.numberIn 10 (whole ++ part)
      some ⟨if negative then -n else n, part.length⟩

def Decimal.widen (d : Decimal) (places : Nat) : Int :=
  d.digits * (Nat.pow 10 (places - d.places) : Nat)

/-- The text of a decimal with some places, with zeros up to a width. -/
def decimalText (n : Int) (places width : Nat) : String :=
  let ds := Nat.toDigits 10 n.natAbs
  let ds := List.replicate (places + 1 - ds.length) '0' ++ ds
  let whole := ds.take (ds.length - places)
  let body := whole ++ (if places = 0 then [] else '.' :: ds.drop (ds.length - places))
  let sign := if n < 0 then ['-'] else []
  String.ofList (sign ++ List.replicate (width - sign.length - body.length) '0' ++ body)

/-- The options and operands of `seq`, where a negative number is no option. -/
def countingOptions : (fuel : Nat) → Options → List String → Except String Options
  | 0, o, _ | _, o, [] => .ok o
  | fuel + 1, o, a :: rest =>
    match a.toList with
    | '-' :: c :: more =>
      if c.isDigit || c = '.' then .ok { o with operands := a :: rest }
      else if c = 's' || c = 'f' then
        if more.isEmpty then
          match rest with
          | v :: rest => countingOptions fuel (o.add c v) rest
          | [] => .error ("option requires an argument -- \x27" ++ String.ofList [c] ++ "\x27")
        else countingOptions fuel (o.add c (String.ofList more)) rest
      else if c = 'w' then countingOptions fuel (o.add 'w' "") rest
      else if a.startsWith "--separator=" then
        countingOptions fuel (o.add 's' (a.drop 12).toString) rest
      else if a.startsWith "--format=" then
        countingOptions fuel (o.add 'f' (a.drop 9).toString) rest
      else if a = "--equal-width" then countingOptions fuel (o.add 'w' "") rest
      else .error ("invalid option -- \x27" ++ String.ofList [c] ++ "\x27")
    | _ => .ok { o with operands := a :: rest }

/-- The most numbers that are counted through. -/
def longestCount : Nat := 1000000

/-- What `seq` answers. -/
def count (c : Call) : Answer :=
  match countingOptions (c.arguments.length + 1) {} c.arguments with
  | .error text => misuse c text 1
  | .ok o =>
    match o.operands with
    | [] => misuse c "missing operand" 1
    | _ :: _ :: _ :: extra :: _ => misuse c ("extra operand \x27" ++ extra ++ "\x27") 1
    | operands =>
      match operands.find? fun t => (decimal? t).isNone with
      | some bad => misuse c ("invalid floating point argument: \x27" ++ bad ++ "\x27") 1
      | none =>
        let ns := operands.filterMap decimal?
        let one : Decimal := ⟨1, 0⟩
        let (first, stride, last) :=
          match ns with
          | [last] => (one, one, last)
          | [first, last] => (first, one, last)
          | [first, stride, last] => (first, stride, last)
          | _ => (one, one, one)
        if stride.digits = 0 then
          misuse c ("invalid Zero increment value: \x27" ++ (operands[1]?).getD "" ++ "\x27") 1
        else
          let scale := max first.places (max stride.places last.places)
          let shownPlaces := max first.places stride.places
          let (a, d, z) := (first.widen scale, stride.widen scale, last.widen scale)
          let size := min ((z - a).fdiv d + 1).toNat longestCount
          let drop : Int := (Nat.pow 10 (scale - shownPlaces) : Nat)
          let numbers := (List.range size).map fun i => (a + d * Int.ofNat i) / drop
          let texts (width : Nat) : List String :=
            numbers.map fun n =>
              match o.value? 'f' with
              | some format =>
                (Shell.Format.printf .program format [decimalText n shownPlaces 0]).written
              | none => decimalText n shownPlaces width
          let width := if o.has 'w' then ((texts 0).map String.length).foldl max 0 else 0
          let all := texts width
          .ofText (if all.isEmpty then "" else ((o.value? 's').getD "\n").intercalate all ++ "\n")

/-- Why an expression has no value. -/
inductive ExprFault where
  | missingAfter (word : String)
  | unexpected (word : String)
  | notInteger
  | divisionByZero
  | unclosed (after : String)
  deriving Repr, Inhabited

def ExprFault.message : ExprFault → String
  | .missingAfter word => "syntax error: missing argument after \x27" ++ word ++ "\x27"
  | .unexpected word => "syntax error: unexpected argument \x27" ++ word ++ "\x27"
  | .notInteger => "non-integer argument"
  | .divisionByZero => "division by zero"
  | .unclosed word => "syntax error: expecting \x27)\x27 after \x27" ++ word ++ "\x27"

def integer? (s : String) : Option Int :=
  match s.toList with
  | '-' :: ds => if ds ≠ [] && ds.all Char.isDigit then
      some (-(Shell.numberIn 10 ds : Int)) else none
  | ds => if ds ≠ [] && ds.all Char.isDigit then some (Shell.numberIn 10 ds : Int) else none

/-- Whether a value counts as nothing. -/
def isNull (s : String) : Bool :=
  s = "" || integer? s = some 0

/-- What a regular expression, from the start on, matches of a text: its first group, or how long
the match is. -/
def matched (text pattern : String) : String :=
  match Regex.ofText? { extended := false } pattern with
  | none => "0"
  | some r =>
    let hasGroup := 0 < r.groupCount
    match Regex.matchAt r { rest := Shell.rawOf text } with
    | some q =>
      if hasGroup then Shell.textOf ((q.groups.lookup 1).getD []) else toString q.before.length
    | none => if hasGroup then "" else "0"

/-- The operators of expressions, the loosest first. -/
def exprLevels : List (List String) :=
  [["|"], ["&"], ["<", "<=", "=", "==", "!=", ">=", ">"], ["+", "-"], ["*", "/", "%"], [":"]]

/-- The value of an operator on two values. -/
def combine (op a b : String) : Except ExprFault String := do
  let truth (p : Bool) : String := if p then "1" else "0"
  match op with
  | "|" => return if isNull a then if isNull b then "0" else b else a
  | "&" => return if isNull a || isNull b then "0" else a
  | ":" => return matched a b
  | "+" | "-" | "*" | "/" | "%" =>
    match integer? a, integer? b with
    | some x, some y =>
      if (op = "/" || op = "%") && y = 0 then throw .divisionByZero
      return toString (match op with
        | "+" => x + y
        | "-" => x - y
        | "*" => x * y
        | "/" => x.tdiv y
        | _ => x.tmod y)
    | _, _ => throw .notInteger
  | _ =>
    let order : Ordering :=
      match integer? a, integer? b with
      | some x, some y => compare x y
      | _, _ => compare a b
    return truth (match op with
      | "<" => order = .lt
      | "<=" => order ≠ .gt
      | "=" | "==" => order = .eq
      | "!=" => order ≠ .eq
      | ">=" => order ≠ .lt
      | _ => order = .gt)

mutual

/-- Reads an expression of some level and gives what follows it; `before` is the last word that was
read. -/
def level : (fuel : Nat) → List (List String) → (before : String) → List String →
    Except ExprFault (String × String × List String)
  | 0, _, before, _ => .error (.missingAfter before)
  | fuel + 1, [], before, ws => primary fuel before ws
  | fuel + 1, ops :: tighter, before, ws => do
    let (a, before, rest) ← level fuel tighter before ws
    levelRest fuel ops tighter a before rest

def levelRest : (fuel : Nat) → List String → List (List String) → String → String →
    List String → Except ExprFault (String × String × List String)
  | 0, _, _, a, before, rest => .ok (a, before, rest)
  | fuel + 1, ops, tighter, a, before, rest =>
    match rest with
    | op :: rest' =>
      if ops.contains op then do
        let (b, before, rest) ← level fuel tighter op rest'
        levelRest fuel ops tighter (← combine op a b) before rest
      else .ok (a, before, rest)
    | [] => .ok (a, before, [])

def primary : (fuel : Nat) → (before : String) → List String →
    Except ExprFault (String × String × List String)
  | 0, before, _ => .error (.missingAfter before)
  | _, before, [] => .error (.missingAfter before)
  | fuel + 1, _, w :: rest =>
    match w, rest with
    | "(", _ => do
      let (v, before, rest) ← level fuel exprLevels w rest
      match rest with
      | ")" :: rest => return (v, ")", rest)
      | [] => throw (.unclosed before)
      | x :: _ => throw (.unexpected x)
    | ")", _ => .error (.unexpected ")")
    | "length", x :: rest => .ok (toString x.length, x, rest)
    | "match", x :: y :: rest => .ok (matched x y, y, rest)
    | "index", x :: y :: rest =>
      let found := x.toList.findIdx? fun c => y.toList.contains c
      .ok (toString ((found.map (· + 1)).getD 0), y, rest)
    | "substr", x :: p :: n :: rest =>
      let piece : String :=
        match integer? p, integer? n with
        | some p, some n =>
          if p ≤ 0 || n ≤ 0 then ""
          else String.ofList ((x.toList.drop (p - 1).toNat).take n.toNat)
        | _, _ => ""
      .ok (piece, n, rest)
    | "+", x :: rest => .ok (x, x, rest)
    | _, _ => .ok (w, w, rest)

end

/-- What `expr` answers. -/
def evaluate (c : Call) : Answer :=
  match c.arguments with
  | [] => misuse c "missing operand" 2
  | words =>
    match level (20 * words.length + 20) exprLevels "" words with
    | .error fault => .fault "expr" fault.message 2
    | .ok (_, _, extra :: _) => .fault "expr" (ExprFault.unexpected extra).message 2
    | .ok (v, _, []) => { Answer.ofText (v ++ "\n") with status := if isNull v then 1 else 0 }

def baseOf (path : String) : String :=
  let parts := (path.splitOn "/").filter (· ≠ "")
  parts.getLast?.getD (if path.startsWith "/" then "/" else "")

/-- A name without an ending, unless it is all of the name. -/
def withoutEnding (ending name : String) : String :=
  if ending ≠ "" && name ≠ ending && name.endsWith ending then
    (name.dropEnd ending.length).toString
  else name

/-- What `basename` answers. -/
def baseNames (c : Call) : Answer :=
  let grammar : Grammar :=
    { flags := "az", valued := "s", long := [("multiple", 'a'), ("suffix", 's'), ("zero", 'z')]
      permutes := false }
  c.withOptions grammar 1 fun o =>
    let print (names : List String) : Answer := .ofText (String.join (names.map (· ++ "\n")))
    match o.operands, o.has 'a' || o.has 's' with
    | [], _ => misuse c "missing operand" 1
    | paths, true =>
      print (paths.map fun p => withoutEnding ((o.value? 's').getD "") (baseOf p))
    | [path], false => print [baseOf path]
    | [path, ending], false => print [withoutEnding ending (baseOf path)]
    | _ :: _ :: extra :: _, false => misuse c ("extra operand \x27" ++ extra ++ "\x27") 1

/-- A path without its last part. -/
def directoryOf (path : String) : String :=
  let trim (cs : List Char) : List Char := (cs.reverse.dropWhile (· = '/')).reverse
  let cs := path.toList
  let whole := trim cs
  if whole.isEmpty then if cs.isEmpty then "." else "/"
  else if whole.contains '/' then
    let front := trim (whole.reverse.dropWhile (· ≠ '/')).reverse
    if front.isEmpty then "/" else String.ofList front
  else "."

/-- What `dirname` answers. -/
def directories (c : Call) : Answer :=
  c.withOptions { flags := "z", long := [("zero", 'z')] } 1 fun o =>
    if o.operands.isEmpty then misuse c "missing operand" 1
    else .ofText (String.join (o.operands.map fun p => directoryOf p ++ "\n"))

/-- What `printf` answers. -/
def formatted (c : Call) : Answer :=
  match (if c.arguments.head? = some "--" then c.arguments.drop 1 else c.arguments) with
  | [] => misuse c "missing operand" 1
  | format :: rest =>
    let p := Shell.Format.printf .program format rest
    let faults := p.faults.map fun f => ((2 : Nat), Shell.rawOf (c.name ++ ": " ++ f ++ "\n"))
    { pieces := faults ++ [(1, Shell.rawOf p.written)], status := p.status }

/-- What is known about files, for conditions. -/
def factsOf (c : Call) : Shell.Facts where
  holds letter path :=
    match c.locate path with
    | .error _ => false
    | .ok (_, .directory) => "edrwxk".toList.contains letter && letter ≠ 'k'
    | .ok (_, .file content executable) =>
      if path = "/dev/null" then "ecrw".toList.contains letter
      else if letter = 's' then !content.isEmpty
      else if letter = 'x' then executable
      else "efrw".toList.contains letter
  isSame a b :=
    match c.locate a, c.locate b with
    | .ok (x, _), .ok (y, _) => x = y
    | _, _ => false

/-- What `test` and `[` answer. -/
def condition (c : Call) : Answer :=
  let isBracket := baseOf c.name = "["
  if isBracket && c.arguments.getLast? ≠ some "]" then .fault c.name "missing \x27]\x27" 2
  else
    match Shell.Criterion.holds (factsOf c)
        (if isBracket then c.arguments.dropLast else c.arguments) with
    | .ok result => .ofStatus (if result then 0 else 1)
    | .error fault => .fault c.name (fault.message .program) 2

def valueIn (environment : List String) (name : String) : Option String :=
  environment.findSome? fun entry =>
    if entry.startsWith (name ++ "=") then some (entry.drop (name.length + 1)).toString else none

/-- What `printenv` answers. -/
def printVariables (c : Call) : Answer :=
  match c.arguments.filter fun a => !a.startsWith "-" with
  | [] => .ofText (String.join (c.environment.map (· ++ "\n")))
  | names =>
    let found := names.map (valueIn c.environment)
    { Answer.ofText (String.join (found.filterMap fun v => v.map (· ++ "\n"))) with
      status := if found.any Option.isNone then 1 else 0 }

/-- The places that a search path names a program at. -/
def placesOf (c : Call) (name : String) : List String :=
  let isProgram (path : String) : Bool :=
    match c.locate path with
    | .ok (_, .file _ executable) => executable
    | _ => false
  if name.contains '/' then if isProgram name then [name] else []
  else
    let path := (valueIn c.environment "PATH").getD ""
    ((path.splitOn ":").map fun d => (if d = "" then "." else d) ++ "/" ++ name).filter isProgram

def whichPrograms (c : Call) : Answer :=
  c.withOptions { flags := "as" } 2 fun o =>
    let found := o.operands.map (placesOf c)
    let shown := found.map fun ps => if o.has 'a' then ps else ps.take 1
    { Answer.ofText (if o.has 's' then "" else String.join (shown.flatten.map (· ++ "\n"))) with
      status := if found.isEmpty || found.any List.isEmpty then 1 else 0 }

/-- What `uname` answers. -/
def systemName (c : Call) : Answer :=
  c.withOptions { flags := "asmo" } 1 fun o =>
    let parts := (if o.has 's' || o.given.isEmpty || o.has 'a' then ["Linux"] else [])
      ++ (if o.has 'm' || o.has 'a' then ["x86_64"] else [])
      ++ (if o.has 'o' || o.has 'a' then ["GNU/Linux"] else [])
    .ofText (" ".intercalate parts ++ "\n")

/-- What `id` answers. -/
def identity (c : Call) : Answer :=
  c.withOptions { flags := "ugnGr" } 1 fun o =>
    .ofText ((if o.has 'n' then "root" else if o.given.isEmpty
      then "uid=0(root) gid=0(root) groups=0(root)" else "0") ++ "\n")

/-- The digits of texts in base sixty-four. -/
def sextets : List Char :=
  "ABCDEFGHIJKLMNOPQRSTUVWXYZabcdefghijklmnopqrstuvwxyz0123456789+/".toList

/-- Bytes in base sixty-four. -/
def encode64 : Bytes → List Char
  | [] => []
  | a :: rest =>
    let b := rest.head?.getD 0
    let c := (rest.drop 1).head?.getD 0
    let n := a.toNat * 65536 + b.toNat * 256 + c.toNat
    let digit (k : Nat) : Char := (sextets[n / Nat.pow 64 k % 64]?).getD 'A'
    let size := min 3 (rest.length + 1)
    let ds := [digit 3, digit 2, if size < 2 then '=' else digit 1,
      if size < 3 then '=' else digit 0]
    ds ++ encode64 (rest.drop 2)
termination_by bs => bs.length
decreasing_by
  simp only [List.length_drop, List.length_cons]
  omega

/-- The bytes that a text in base sixty-four stands for. -/
def decode64 : List Nat → Bytes
  | a :: b :: rest =>
    let c := rest.head?
    let d := (rest.drop 1).head?
    let n := a * 262144 + b * 4096 + c.getD 0 * 64 + d.getD 0
    [UInt8.ofNat (n / 65536)] ++ (if c.isSome then [UInt8.ofNat (n / 256)] else [])
      ++ (if d.isSome then [UInt8.ofNat n] else []) ++ decode64 (rest.drop 2)
  | _ => []
termination_by ns => ns.length
decreasing_by
  simp only [List.length_drop, List.length_cons]
  omega

/-- Pieces of a text of the same length. -/
def rows (width : Nat) : (fuel : Nat) → List Char → List (List Char)
  | 0, cs => [cs]
  | fuel + 1, cs =>
    if cs.length ≤ width then [cs] else cs.take width :: rows width fuel (cs.drop width)

def base64 (c : Call) : Answer :=
  let grammar : Grammar :=
    { flags := "di", valued := "w", long := [("decode", 'd'), ("wrap", 'w')] }
  c.withOptions grammar 1 fun o =>
    let (input, faults) := c.allInput 1
    if o.has 'd' then
      let digits := input.filterMap fun b => sextets.idxOf? (Char.ofNat b.toNat)
      faults.append (.ofBytes (decode64 digits))
    else
      let cs := encode64 input
      let width := ((o.value? 'w').bind String.toNat?).getD 76
      let shown := if width = 0 then String.ofList cs
        else if cs.isEmpty then ""
        else "\n".intercalate ((rows width cs.length cs).map String.ofList) ++ "\n"
      faults.append (.ofText shown)

/-- Bytes sixteen by sixteen, with the offset of each group. -/
def groups (fuel at_ : Nat) (bs : Bytes) : List (Nat × Bytes) :=
  match fuel with
  | 0 => []
  | fuel + 1 =>
    if bs.isEmpty then [] else (at_, bs.take 16) :: groups fuel (at_ + 16) (bs.drop 16)

/-- A number in some base with zeros in front of it. -/
def inBase (base width n : Nat) : String :=
  let ds := Nat.toDigits base n
  String.ofList (List.replicate (width - ds.length) '0' ++ ds)

/-- How a byte is dumped as a character. -/
def dumpedCharacter (b : UInt8) : String :=
  let named : List (UInt8 × String) :=
    [(0, "\\0"), (7, "\\a"), (8, "\\b"), (9, "\\t"), (10, "\\n"), (11, "\\v"), (12, "\\f"),
      (13, "\\r")]
  let shown :=
    match named.lookup b with
    | some s => s
    | none => if 32 ≤ b && b < 127 then String.ofList [Char.ofNat b.toNat] else inBase 8 3 b.toNat
  String.ofList (List.replicate (4 - shown.length) ' ') ++ shown

/-- Two bytes as one number, the second one being the larger part. -/
def pairs : Bytes → List Nat
  | a :: b :: rest => (a.toNat + 256 * b.toNat) :: pairs rest
  | [a] => [a.toNat]
  | [] => []

/-- What `od` answers. -/
def dump (c : Call) : Answer :=
  let grammar : Grammar :=
    { flags := "cbxvod", valued := "AtNjw", long := [("address-radix", 'A'), ("format", 't')] }
  c.withOptions grammar 1 fun o =>
    let (input, faults) := c.allInput 1
    let line (bs : Bytes) : String :=
      let byte (base width : Nat) : String :=
        String.join (bs.map fun b => " " ++ inBase base width b.toNat)
      let decimal (width : Nat) : String :=
        String.join (bs.map fun b => padded (width + 1) b.toNat)
      match o.value? 't' with
      | some "x1" => byte 16 2
      | some "o1" => byte 8 3
      | some "u1" | some "d1" => decimal 3
      | some "c" | some "a" => String.join (bs.map dumpedCharacter)
      | some "x2" | some "x" => String.join ((pairs bs).map fun n => " " ++ inBase 16 4 n)
      | _ =>
        if o.has 'c' then String.join (bs.map dumpedCharacter)
        else if o.has 'b' then byte 8 3
        else if o.has 'x' then String.join ((pairs bs).map fun n => " " ++ inBase 16 4 n)
        else String.join ((pairs bs).map fun n => " " ++ inBase 8 6 n)
    let address (n : Nat) : String :=
      match o.value? 'A' with
      | some "n" => ""
      | some "d" => inBase 10 7 n
      | some "x" => inBase 16 6 n
      | _ => inBase 8 7 n
    let input := ((o.value? 'N').bind String.toNat?).elim input input.take
    let body := (groups (input.length + 1) 0 input).map fun (at_, bs) =>
      address at_ ++ line bs ++ "\n"
    let last := address input.length
    faults.append (.ofText (String.join body ++ (if last = "" then "" else last ++ "\n")))

end RLanguageHost.Utility.Words
