import RLanguageHost.Utility.Basic

/-!
# Copying in blocks

`dd`: copies an input in blocks, of which each is what a single reading brings. It says at the end
how many blocks were whole and how many were not.
-/

namespace RLanguageHost.Utility.Blocks

/-- What a call of `dd` asks for. -/
structure Order where
  input : Option String := none
  output : Option String := none
  inputSize : Nat := 512
  /-- The most blocks that are copied. -/
  count : Option Nat := none
  /-- The blocks that are passed over. -/
  skip : Nat := 0
  /-- Whether nothing is said at the end, or less. -/
  status : String := ""
  conversions : List String := []
  deriving Repr, Inhabited

/-- A number with a unit, or a product of such numbers. -/
def number? (s : String) : Option Nat :=
  (s.splitOn "x").foldl (fun product part =>
    let digits := part.toList.takeWhile Char.isDigit
    let unit := part.toList.drop digits.length
    let factor : Option Nat :=
      [("", 1), ("c", 1), ("w", 2), ("b", 512), ("k", 1024), ("K", 1024), ("kB", 1000),
        ("KiB", 1024), ("M", 1048576), ("MB", 1000000), ("MiB", 1048576), ("G", 1073741824),
        ("GB", 1000000000)].lookup (String.ofList unit)
    match product, (String.ofList digits).toNat?, factor with
    | some p, some n, some f => some (p * n * f)
    | _, _, _ => none) (some 1)

/-- Reads the operands of a call. -/
def orderOf (o : Order) : List String → Except String Order
  | [] => .ok o
  | a :: rest => do
    let name := String.ofList (a.toList.takeWhile (· ≠ '='))
    let value := (a.drop (name.length + 1)).toString
    let number (least : Nat) : Except String Nat :=
      match number? value with
      | some n => if n < least then .error ("invalid number: \x27" ++ value ++ "\x27") else .ok n
      | none => .error ("invalid number: \x27" ++ value ++ "\x27")
    let unknown : Except String Order :=
      .error ("unrecognized operand \x27" ++ a ++ "\x27" ++ helpHint "dd")
    let o ← (if !a.contains '=' then unknown else
      match name with
      | "if" => .ok { o with input := some value }
      | "of" => .ok { o with output := some value }
      | "bs" | "ibs" => do return { o with inputSize := ← number 1 }
      | "obs" | "cbs" => do
        let _ ← number 1
        return o
      | "count" => do return { o with count := some (← number 0) }
      | "skip" => do return { o with skip := ← number 0 }
      | "seek" => do
        let _ ← number 0
        return o
      | "status" => .ok { o with status := value }
      | "conv" => .ok { o with conversions := value.splitOn "," }
      | "iflag" | "oflag" => .ok o
      | _ => unknown)
    orderOf o rest

def converted (o : Order) (bs : Bytes) : Bytes :=
  bs.map fun b =>
    let c := Char.ofNat b.toNat
    if 128 ≤ b then b
    else if o.conversions.contains "ucase" then UInt8.ofNat c.toUpper.toNat
    else if o.conversions.contains "lcase" then UInt8.ofNat c.toLower.toNat
    else b

/-- A size in words: in bytes, and in larger units if there are many. -/
def sizeText (n : Nat) : String :=
  let scaled (unit : Nat) : String :=
    let tenths := (n * 10 + unit / 2) / unit
    toString (tenths / 10) ++ "." ++ toString (tenths % 10)
  if n = 1 then "1 byte"
  else if n < 1000 then toString n ++ " bytes"
  else if n < 1000000 then
    toString n ++ " bytes (" ++ scaled 1000 ++ " kB"
      ++ (if n < 1024 then "" else ", " ++ scaled 1024 ++ " KiB") ++ ")"
  else toString n ++ " bytes (" ++ scaled 1000000 ++ " MB, " ++ scaled 1048576 ++ " MiB)"

structure Tally where
  whole : Nat := 0
  part : Nat := 0
  size : Nat := 0
  deriving Repr, Inhabited

def Tally.add (t : Tally) (o : Order) (bs : Bytes) : Tally :=
  if bs.length = o.inputSize then { t with whole := t.whole + 1, size := t.size + bs.length }
  else { t with part := t.part + 1, size := t.size + bs.length }

def Tally.text (t : Tally) (o : Order) : String :=
  let blocks := toString t.whole ++ "+" ++ toString t.part
  if o.status = "none" then ""
  else
    blocks ++ " records in\n" ++ blocks ++ " records out\n"
      ++ (if o.status = "noxfer" then "" else sizeText t.size ++ " copied, 0.0001 s, "
        ++ toString (t.size / 100) ++ ".0 MB/s\n")

/-- Ends the copying, after the replies that are left. -/
def finish (o : Order) (t : Tally) (replies : List Reply) : Turn :=
  let text := t.text o
  if text = "" then .ends 0
  else
    match replies with
    | [] => .asks (.write 2 (Shell.rawOf text))
    | _ => .ends 0

def writing (o : Order) (bs : Bytes) : Errand :=
  match o.output with
  | none => .write 1 (converted o bs)
  | some path => .extend path (converted o bs)

/-- Copies what comes from the standard input. -/
def copyStream (o : Order) : (fuel : Nat) → (skip : Nat) → (left : Option Nat) → Tally →
    List Reply → Turn
  | 0, _, _, _, _ => .busy
  | fuel + 1, skip, left, t, replies =>
    if left = some 0 && skip = 0 then finish o t replies
    else
      match replies with
      | [] => .asks (.receive o.inputSize)
      | .content (.ok (b :: bs)) :: rest =>
        if skip ≠ 0 then copyStream o fuel (skip - 1) left t rest
        else
          match rest with
          | [] => .asks (writing o (b :: bs))
          | _ :: rest => copyStream o fuel 0 (left.map (· - 1)) (t.add o (b :: bs)) rest
      | _ :: rest => finish o t rest

def blocksOf (size : Nat) : (fuel : Nat) → Bytes → List Bytes
  | 0, _ | _, [] => []
  | fuel + 1, bs => bs.take size :: blocksOf size fuel (bs.drop size)

def copyContent (o : Order) (bs : Bytes) (replies : List Reply) : Turn :=
  let bs := bs.drop (o.skip * o.inputSize)
  let bs := (o.count.map fun n => bs.take (n * o.inputSize)).getD bs
  let t := (blocksOf o.inputSize (bs.length + 1) bs).foldl (fun t b => t.add o b) ({} : Tally)
  match replies with
  | [] => .asks (writing o bs)
  | _ :: rest => finish o t rest

/-- Says what is wrong and ends. -/
def fail (text : String) (replies : List Reply) : Turn :=
  match replies with
  | [] => .asks (.write 2 (Shell.rawOf ("dd: " ++ text ++ "\n")))
  | _ => .ends 1

def fromInput (o : Order) (replies : List Reply) : Turn :=
  match o.input with
  | none => copyStream o (2 * replies.length + o.skip + 10) o.skip o.count {} replies
  | some "/dev/stdin" => copyStream o (2 * replies.length + o.skip + 10) o.skip o.count {} replies
  | some path =>
    if path = "/dev/zero" || path = "/dev/urandom" then
      match o.count with
      | some n => copyContent { o with skip := 0 } (List.replicate (n * o.inputSize) 0) replies
      | none => .busy
    else
      match replies with
      | [] => .asks (.load path)
      | .content (.ok bs) :: rest => copyContent o bs rest
      | .content (.error e) :: rest =>
        fail ("failed to open \x27" ++ path ++ "\x27: " ++ describe e) rest
      | _ => .ends 1

/-- What `dd` does after the replies that it has had. -/
def turn (c : Call) (replies : List Reply) : Turn :=
  match orderOf {} c.arguments with
  | .error text => fail text replies
  | .ok o =>
    match o.output, replies with
    | none, _ => fromInput o replies
    | some path, [] => .asks (.create path (o.conversions.contains "notrunc"))
    | some path, .content (.error e) :: rest =>
      fail ("failed to open \x27" ++ path ++ "\x27: " ++ describe e) rest
    | some _, _ :: rest => fromInput o rest

end RLanguageHost.Utility.Blocks
