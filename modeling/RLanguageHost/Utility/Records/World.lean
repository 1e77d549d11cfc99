import RLanguageHost.Utility.Basic
import RLanguageHost.Utility.Records.Reader
import RLanguageHost.Utility.Records.Table
import RLanguageHost.Utility.Words

/-!
# The world of a program over records

What a program over records knows while it runs: variables, arrays, the record with its fields, its
inputs and outputs, and the replies to its errands that it has not used yet. When it needs a reply
that is not there, it stops and says what it asks for.

The fields of a record are found when one is asked for, and a record is put together again from its
fields when it is asked for after one has changed.
-/

namespace RLanguageHost.Utility.Records

/-- Why a program stops. -/
inductive Halt where
  | asks (errand : Errand)
  | nextRecord
  | nextFile
  | leaves
  /-- The program ends with what is said about a fault. -/
  | fault (text : String)
  | busy
  deriving Repr, Inhabited

/-- What is there to be read of an input. -/
structure Feed where
  text : List Char := []
  /-- Whether more may come from the standard input. -/
  isLive : Bool := false
  /-- How much has come from it. -/
  size : Nat := 0
  deriving Repr, Inhabited

structure Sink where
  name : String
  isCommand : Bool
  /-- What has not been written yet, the last piece first. -/
  pieces : List String := []
  deriving Repr, Inhabited

/-- What a name in a function stands for. -/
inductive Slot where
  | value (v : Value)
  /-- An array, by the key under which it is kept. -/
  | table (key : String)
  deriving Repr, Inhabited

structure World where
  replies : List Reply := []
  globals : Std.HashMap String Value := {}
  tables : Std.HashMap String Table := {}
  locals : List (String × Slot) := []
  /-- Counts the arrays of functions. -/
  fresh : Nat := 0
  /-- The record, unless it has to be put together from its fields. -/
  record : Option String := some ""
  /-- The fields, if they have been found. -/
  fields : Option (Array Value) := none
  /-- The input of the rules, if one is open. -/
  input : Option Feed := none
  /-- The next argument to be looked at. -/
  argument : Nat := 1
  /-- Whether an input has been named by the arguments. -/
  hadFile : Bool := false
  /-- The inputs that are read by their names. -/
  feeds : List (String × Feed) := []
  /-- The statuses of the commands that are read from. -/
  statuses : List (String × Nat) := []
  sinks : List Sink := []
  /-- What is to be written to the standard output, the last piece first, and its size. -/
  pieces : List String := []
  pending : Nat := 0
  /-- The rules whose ranges are open. -/
  ranges : List Nat := []
  status : Nat := 0
  seed : Nat := 1
  deriving Inhabited

/-- What a part of a program does in a world. -/
abbrev Act := ExceptT Halt (StateM World)

namespace Act

def ask (errand : Errand) : Act Reply := do
  match (← get).replies with
  | [] => throw (.asks errand)
  | r :: rest => do
    modify fun w => { w with replies := rest }
    return r

/-- The program ends with a fault that a value or a record has caused. -/
def faultHere {α : Type} (text : String) : Act α := do
  let w ← get
  let shown (name : String) : String := ((w.globals.getD name .unset).render "%.6g")
  let count (name : String) : String :=
    Value.ofNumber "%.6g" (w.globals.getD name .unset).toNumber
  throw (.fault ("run time error: " ++ text ++ "\n\tFILENAME=\"" ++ shown "FILENAME" ++ "\" FNR="
    ++ count "FNR" ++ " NR=" ++ count "NR"))

/-- The value of a variable that every program has. -/
def known (name : String) : Act Value := do
  return (← get).globals.getD name .unset

/-- The text of a variable that every program has. -/
def knownText (name : String) : Act String := do
  let w ← get
  return (w.globals.getD name .unset).render ((w.globals.getD "CONVFMT" .unset).render "%.6g")

/-- Gives a variable a value without any consequences. -/
def setKnown (name : String) (v : Value) : Act Unit :=
  modify fun w => { w with globals := w.globals.insert name v }

def textOf (v : Value) : Act String := do
  match v with
  | .number _ => return v.render (← knownText "CONVFMT")
  | v => return v.render "%.6g"

/-- The expression that a value matches texts with. -/
def patternOf (v : Value) : Act Regex := do
  let s ← textOf v
  match Records.regexOf s with
  | .ok r => return r
  | .error text => throw (.fault ("line 1: " ++ text))

/-! ### Output -/

/-- So much is kept before it is written. -/
def patience : Nat := 65536

/-- Writes what has been kept for the standard output. -/
def flushMain : Act Unit := do
  let w ← get
  if w.pieces.isEmpty then pure ()
  else
    let _ ← ask (.write 1 (Shell.rawOf (String.join w.pieces.reverse)))
    modify fun w => { w with pieces := [], pending := 0 }

/-- Writes what has been kept for a file. -/
def flushSink (s : Sink) : Act Unit := do
  if s.isCommand || s.pieces.isEmpty then pure ()
  else
    let _ ← ask (.extend s.name (Shell.rawOf (String.join s.pieces.reverse)))
    modify fun w => { w with sinks := w.sinks.map fun t =>
      if t.name = s.name && !t.isCommand then { t with pieces := [] } else t }

/-- Writes what has been kept for the standard output and the files. -/
def flushAll : Act Unit := do
  flushMain
  (← get).sinks.forM flushSink

def printMain (s : String) : Act Unit := do
  modify fun w => { w with pieces := s :: w.pieces, pending := w.pending + s.length }
  if patience ≤ (← get).pending then flushMain

def printNamed (outlet : Outlet) (name s : String) : Act Unit := do
  let isCommand := outlet = .command
  if !isCommand && (name = "/dev/stdout" || name = "-") then printMain s
  else if !isCommand && name = "/dev/stderr" then
    let _ ← ask (.write 2 (Shell.rawOf s))
  else
    if !(← get).sinks.any fun t => t.name = name && t.isCommand = isCommand then
      if isCommand then flushAll
      else
        match ← ask (.create name (outlet = .fileEnd)) with
        | .content (.error e) =>
          throw (.fault ("cannot open \"" ++ name ++ "\" for output (" ++ describe e ++ ")"))
        | _ => pure ()
      modify fun w => { w with sinks := w.sinks ++ [{ name, isCommand }] }
    modify fun w => { w with sinks := w.sinks.map fun t =>
      if t.name = name && t.isCommand = isCommand then { t with pieces := s :: t.pieces } else t }

/-- The status of a command as a program sees it. -/
def statusOfWord (word : Nat) : Nat :=
  if word % 128 ≠ 0 then 256 + word % 128 else word / 256 % 256

/-- Closes an output: a command gets what was printed to it. -/
def closeSink (s : Sink) : Act Nat := do
  let status ← (do
    if s.isCommand then
      match ← ask (.run s.name (some (Shell.rawOf (String.join s.pieces.reverse))) false) with
      | .ran word _ => return statusOfWord word
      | _ => return 0
    else
      flushSink s
      return 0)
  modify fun w => { w with sinks := w.sinks.filter fun t =>
    !(t.name = s.name && t.isCommand = s.isCommand) }
  return status

def close (name : String) : Act Value := do
  let w ← get
  let outputs := w.sinks.filter (·.name = name)
  let hasFeed := w.feeds.any (·.1 = name)
  let mut status : Option Nat := none
  for s in outputs do
    status := some (← closeSink s)
  if hasFeed then
    status := some (((← get).statuses.lookup name).getD 0)
    modify fun w => { w with
      feeds := w.feeds.filter (·.1 ≠ name), statuses := w.statuses.filter (·.1 ≠ name) }
  return .number (match status with
    | some n => Float.ofNat n
    | none => -1.0)

def system (command : String) : Act Value := do
  flushAll
  match ← ask (.run command none false) with
  | .ran word _ => return .ofNat (statusOfWord word)
  | _ => return .ofNat 0

def closeAll : Act Unit := do
  for s in (← get).sinks do
    if s.isCommand then
      let _ ← closeSink s
  flushAll

/-! ### Records and fields -/

def blankParts : (fuel : Nat) → List Char → List String
  | 0, _ => []
  | fuel + 1, cs =>
    match cs.dropWhile fun c => c = ' ' || c = '\t' || c = '\n' with
    | [] => []
    | rest =>
      let word := rest.takeWhile fun c => !(c = ' ' || c = '\t' || c = '\n')
      String.ofList word :: blankParts fuel (rest.drop word.length)

/-- The parts of a text between the matches of an expression that are not empty. -/
def regexParts (r : Regex) : (fuel : Nat) → Regex.Progress → (start : Regex.Progress) → List String
  | 0, _, _ => []
  | fuel + 1, p, start =>
    match r.find? (p.rest.length + 1) p with
    | none => [Shell.textOf start.rest]
    | some (a, b) =>
      if (b.since a).isEmpty then
        if b.rest.isEmpty then [Shell.textOf start.rest] else regexParts r fuel b.pass start
      else Shell.textOf (a.since start) :: regexParts r fuel b b

/-- The parts of a text by a separator: a blank stands for white space, nothing for the places
between characters, another character for itself, and a longer text for an expression. -/
def parts (separator text : String) : Act (List String) := do
  if text = "" then return []
  else
    match separator.toList with
    | [' '] => return blankParts (text.length + 1) text.toList
    | [] => return text.toList.map fun c => String.ofList [c]
    | [_] => return text.splitOn separator
    | _ => do
      let r ← patternOf (.text separator)
      let p : Regex.Progress := { rest := Shell.rawOf text }
      return regexParts r (2 * text.length + 2) p p

def recordText : Act String := do
  let w ← get
  match w.record with
  | some s => return s
  | none => do
    let texts ← ((w.fields.getD #[]).toList).mapM textOf
    let s := (← knownText "OFS").intercalate texts
    modify fun w => { w with record := some s }
    return s

def fields : Act (Array Value) := do
  match (← get).fields with
  | some fs => return fs
  | none => do
    let texts ← parts (← knownText "FS") (← recordText)
    let fs := (texts.map Value.input).toArray
    modify fun w => { w with fields := some fs, globals := w.globals.insert "NF" (.ofNat fs.size) }
    return fs

/-- Takes a text as the record. -/
def setRecord (s : String) : Act Unit :=
  modify fun w => { w with record := some s, fields := none }

/-- The value of a field; the one with the number zero is the record. -/
def field (x : Float) : Act Value := do
  let n := place x
  if n < 0 then faultHere ("negative field index $" ++ toString n)
  else if n = 0 then return .input (← recordText)
  else return (← fields).getD (n.toNat - 1) (.input "")

def setFields (fs : Array Value) : Act Unit :=
  modify fun w => { w with
    fields := some fs, record := none, globals := w.globals.insert "NF" (.ofNat fs.size) }

def setField (x : Float) (v : Value) : Act Unit := do
  let n := place x
  if n < 0 then faultHere ("negative field index $" ++ toString n)
  else if n = 0 then setRecord (← textOf v)
  else
    let fs ← fields
    let i := n.toNat - 1
    let longer := fs ++ (Array.replicate (i + 1 - fs.size) (Value.input ""))
    setFields (longer.setIfInBounds i v)

/-- Gives a variable outside of functions a value. -/
def setGlobal (name : String) (v : Value) : Act Unit := do
  match name with
  | "NF" => do
    let n := place v.toNumber
    if n < 0 then faultHere "negative value assigned to NF"
    else
      let fs ← fields
      setFields ((fs.toList.take n.toNat).toArray
        ++ Array.replicate (n.toNat - fs.size) (Value.input ""))
  | "FS" => do
    let _ ← fields
    setKnown name v
  | _ => setKnown name v

/-- The value of a variable outside of functions. -/
def global (name : String) : Act Value := do
  if name = "NF" then
    let fs ← fields
    return .ofNat fs.size
  else known name

/-! ### Input -/

/-- Where the first record of a text ends, if that can be said: the record and what follows its
separator. Without more to come the rest of a text is a record. -/
def splitRecord (separator : String) (isLive : Bool) (cs : List Char) :
    Act (Option (String × List Char)) := do
  let last : Option (String × List Char) :=
    if isLive || cs.isEmpty then none else some (String.ofList cs, [])
  match separator.toList with
  | [c] =>
    let line := cs.takeWhile (· ≠ c)
    match cs.drop line.length with
    | _ :: rest => return some (String.ofList line, rest)
    | [] => return last
  | [] =>
    let body := cs.dropWhile (· = '\n')
    match paragraph body with
    | some (p, rest) =>
      if rest.isEmpty && isLive then return none else return some (String.ofList p, rest)
    | none =>
      let trimmed := (body.reverse.dropWhile (· = '\n')).reverse
      if isLive || trimmed.isEmpty then return none else return some (String.ofList trimmed, [])
  | _ => do
    let r ← patternOf (.text separator)
    let bytes := Shell.rawOf (String.ofList cs)
    match r.findIn? bytes with
    | some (a, b) =>
      let isEmpty := b.rest.length = a.rest.length
      if isEmpty || (b.rest.isEmpty && isLive) then return last
      else return some (Shell.textOf a.before.reverse, cs.drop b.before.length)
    | none => return last
where
  /-- The text before a blank line, and what follows all blank lines there. -/
  paragraph : List Char → Option (List Char × List Char)
    | [] => none
    | '\n' :: '\n' :: rest => some ([], rest.dropWhile (· = '\n'))
    | c :: rest => (paragraph rest).map fun (p, rest) => (c :: p, rest)

/-- So much is asked for at least. -/
def leastPiece : Nat := 4096

def readFeed : (fuel : Nat) → Feed → Act (Option String × Feed)
  | 0, f => return (none, f)
  | fuel + 1, f => do
    match ← splitRecord (← knownText "RS") f.isLive f.text with
    | some (s, rest) => return (some s, { f with text := rest })
    | none =>
      if f.isLive then
        match ← ask (.receive (max leastPiece f.size)) with
        | .content (.ok (b :: bytes)) =>
          readFeed fuel { f with
            text := f.text ++ (Shell.textOf (b :: bytes)).toList
            size := f.size + bytes.length + 1 }
        | _ => readFeed fuel { f with isLive := false }
      else return (none, { f with text := [] })

/-- How often the standard input can be asked for before a record is there. -/
def manyPieces : Nat := 1000000

/-- Assigns what an argument or an option says: a name, an equals sign and a text. -/
def assignText (s : String) : Act Unit := do
  let cs := s.toList
  let name := cs.takeWhile (· ≠ '=')
  let value := cs.drop (name.length + 1)
  setGlobal (String.ofList name) (.input (String.ofList (unescaped (value.length + 1) value)))

/-- Whether an argument assigns a variable. -/
def isAssignment (s : String) : Bool :=
  let name := s.toList.takeWhile (· ≠ '=')
  s.contains '=' && name.head?.any (fun c => c.isAlpha || c = '_')
    && name.all fun c => c.isAlphanum || c = '_'

def loadFile (path : String) : Act (Option (Except Failure Feed)) := do
  if path = "-" || path = "/dev/stdin" then return some (.ok { isLive := true })
  else
    match ← ask (.load path) with
    | .content (.ok bytes) => return some (.ok { text := (Shell.textOf bytes).toList })
    | .content (.error e) => return some (.error e)
    | _ => return none

def readFault : String :=
  "read error (" ++ describe (.system .isDirectory) ++ ")"

/-- Opens the next input that the arguments name, or the standard input if they name none. -/
def openNext : (fuel : Nat) → Act Bool
  | 0 => return false
  | fuel + 1 => do
    let w ← get
    let count := place (w.globals.getD "ARGC" .unset).toNumber
    if count ≤ w.argument then
      if w.hadFile then return false
      else
        modify fun w => { w with input := some { isLive := true }, hadFile := true }
        setKnown "FILENAME" (.text "-")
        return true
    else
      modify fun w => { w with argument := w.argument + 1 }
      let key := Key.whole w.argument
      let table := w.tables.getD "ARGV" {}
      let name ← textOf (if table.has key then (table.use key).1 else .unset)
      if name = "" then openNext fuel
      else if isAssignment name then
        assignText name
        openNext fuel
      else
        match ← loadFile name with
        | some (.ok feed) => do
          modify fun w => { w with input := some feed, hadFile := true }
          setKnown "FILENAME" (.text name)
          setKnown "FNR" (.number 0.0)
          return true
        | some (.error (.system .isDirectory)) => throw (.fault readFault)
        | some (.error e) =>
          throw (.fault ("cannot open \"" ++ name ++ "\" (" ++ describe e ++ ")"))
        | none => return false

/-- The next record of the inputs that the arguments name. -/
def nextRecord : (fuel : Nat) → Act (Option String)
  | 0 => return none
  | fuel + 1 => do
    match (← get).input with
    | none => do
      if ← openNext manyPieces then nextRecord fuel
      else return none
    | some feed => do
      let (found, feed) ← readFeed manyPieces feed
      match found with
      | some s => do
        modify fun w => { w with input := some feed }
        return some s
      | none => do
        modify fun w => { w with input := none }
        nextRecord fuel

def count (name : String) : Act Unit := do
  setKnown name (.number ((← known name).toNumber + 1.0))

end Act

end RLanguageHost.Utility.Records
