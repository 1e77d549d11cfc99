import RLanguageHost.Utility.Records.Run

/-!
# Working through records

`awk`: a program, given as an argument or in files, works through the records of its inputs. Its
variables can be assigned by options, and by arguments between the inputs.
-/

namespace RLanguageHost.Utility.Records

/-- What the options of a call say. -/
structure Order where
  /-- The files of the program. -/
  files : List String := []
  /-- The assignments, in order. -/
  assignments : List String := []
  separator : Option String := none
  /-- The arguments after the options. -/
  rest : List String := []
  deriving Repr, Inhabited

inductive Purpose where
  | order (order : Order)
  /-- Only a text is written to a stream. -/
  | print (stream : Nat) (text : String) (status : Nat)
  deriving Repr, Inhabited

/-- How to call a program over records. -/
def usage : String :=
  "Usage: mawk [Options] [Program] [file ...]\n\nProgram:\n" ++
  "    The -f option value is the name of a file containing program text.\n" ++
  "    If no -f option is given, a \"--\" ends option processing; the following\n" ++
  "    parameters are the program text.\n\nOptions:\n" ++
  "    -f program-file  Program  text is read from file instead of from the\n" ++
  "                     command-line.  Multiple -f options are accepted.\n" ++
  "    -F value         sets the field separator, FS, to value.\n" ++
  "    -v var=value     assigns value to program variable var.\n" ++
  "    --               unambiguous end of options.\n\n" ++
  "    Implementation-specific options are prefixed with \"-W\".  They can be\n" ++
  "    abbreviated:\n\n" ++
  "    -W version       show version information and exit.\n" ++
  "    -W compat        pre-POSIX 2001.\n" ++
  "    -W dump          show assembler-like listing of program and exit.\n" ++
  "    -W help          show this message and exit.\n" ++
  "    -W interactive   set unbuffered output, line-buffered input.\n" ++
  "    -W exec file     use file as program as well as last option.\n" ++
  "    -W posix         stricter POSIX checking.\n" ++
  "    -W random=number set initial random seed.\n" ++
  "    -W sprintf=number adjust size of sprintf buffer.\n" ++
  "    -W usage         show this message and exit.\n"

def version : String :=
  "mawk 1.3.4 20240123\n"

def ofWord (word : String) : Option Purpose :=
  if word = "version" || word = "v" then some (.print 1 version 0)
  else if word = "help" || word = "usage" || word = "h" || word = "u" then
    some (.print 1 usage 0)
  else none

/-- Reads the options of a call. -/
def purposeOf (name : String) : (fuel : Nat) → Order → List String → Purpose
  | 0, o, _ => .order o
  | fuel + 1, o, arguments =>
    let fails (text : String) : Purpose := .print 2 (name ++ ": " ++ text ++ "\n") 2
    match arguments with
    | [] => .order o
    | a :: rest =>
      match a.toList with
      | ['-', '-'] => .order { o with rest }
      | '-' :: '-' :: word =>
        match ofWord (String.ofList word) with
        | some p => p
        | none => purposeOf name fuel o rest
      | '-' :: c :: value =>
        if !"FfvW".toList.contains c then fails ("not an option: " ++ a)
        else
          let (value?, rest) : Option String × List String :=
            if value.isEmpty then (rest.head?, rest.drop 1)
            else (some (String.ofList value), rest)
          match value? with
          | none => fails ("option " ++ a ++ " lacks argument")
          | some v =>
            match c with
            | 'F' => purposeOf name fuel { o with separator := some v } rest
            | 'f' => purposeOf name fuel { o with files := o.files ++ [v] } rest
            | 'v' =>
              if Act.isAssignment v then
                purposeOf name fuel { o with assignments := o.assignments ++ [v] } rest
              else fails ("improper assignment: -v " ++ v)
            | _ =>
              match ofWord v with
              | some p => p
              | none => purposeOf name fuel o rest
      | _ => .order { o with rest := a :: rest }

namespace Order

/-- The text of the program that an order is for, and the arguments that it gets; none if there is
no program. -/
def source (o : Order) : Act (Option (String × List String)) := do
  match o.files, o.rest with
  | [], [] => return none
  | [], text :: rest => return some (text, rest)
  | files, rest => do
    let texts ← files.mapM fun path => do
      match ← Act.loadFile path with
      | some (.ok feed) => do
        let (text, _) ← all Act.manyPieces feed
        return String.ofList text
      | some (.error e) =>
        throw (.fault ("cannot open \"" ++ path ++ "\" (" ++ describe e ++ ")"))
      | none => return ""
    return some ("\n".intercalate texts, rest)
where
  /-- All that there is of a feed. -/
  all : (fuel : Nat) → Feed → Act (List Char × Feed)
    | 0, f => return (f.text, f)
    | fuel + 1, f => do
      if f.isLive then
        match ← Act.ask (.receive Act.leastPiece) with
        | .content (.ok (b :: bytes)) =>
          all fuel { f with text := f.text ++ (Shell.textOf (b :: bytes)).toList }
        | _ => return (f.text, { f with isLive := false })
      else return (f.text, f)

/-- Gives the variables that every program has their values. -/
def prepare (o : Order) (c : Call) (arguments : List String) : Act Unit := do
  let numbers : List (String × Float) := [("NR", 0.0), ("FNR", 0.0),
    ("ARGC", Float.ofNat (arguments.length + 1))]
  let texts : List (String × String) := [("FS", " "), ("OFS", " "), ("ORS", "\n"), ("RS", "\n"),
    ("SUBSEP", "\x1c"), ("CONVFMT", "%.6g"), ("OFMT", "%.6g"), ("FILENAME", "")]
  numbers.forM fun (n, x) => Act.setKnown n (.number x)
  texts.forM fun (n, s) => Act.setKnown n (.text s)
  let environment := c.environment.foldl (fun (t : Table) entry =>
    let n := (entry.toList.takeWhile (· ≠ '=')).length
    t.put (.text (entry.take n).toString) (.input (entry.drop (n + 1)).toString)) {}
  let given := ((c.name :: arguments).foldl (fun ((t : Table), (i : Int)) a =>
    (t.put (.whole i) (.input a), i + 1)) ({}, 0)).1
  modify fun w => { w with
    tables := (w.tables.insert "ENVIRON" environment).insert "ARGV" given }
  match o.separator with
  | some s => do
    let s := String.ofList (unescaped (s.length + 1) s.toList)
    Act.setKnown "FS" (.text s)
  | none => pure ()
  o.assignments.forM Act.assignText

def carryOut (o : Order) (c : Call) : Act Unit := do
  match ← o.source with
  | none =>
    let _ ← Act.ask (.write 2 (Shell.rawOf usage))
  | some (text, arguments) => do
    o.prepare c arguments
    match Program.ofText text with
    | .error lines => do
      let said := String.join (lines.map fun l => c.name ++ ": " ++ l ++ "\n")
      let _ ← Act.ask (.write 2 (Shell.rawOf said))
      modify fun w => { w with status := 2 }
    | .ok program => Code.run { program, arrays := program.arrayParameters }

end Order

/-- Carries out an order; a fault is reported before what has been kept is written. -/
def complete (o : Order) (c : Call) : Act Unit := do
  try o.carryOut c
  catch halt =>
    match halt with
    | .fault text => do
      let _ ← Act.ask (.write 2 (Shell.rawOf (c.name ++ ": " ++ text ++ "\n")))
      Act.closeAll
      modify fun w => { w with status := 2 }
    | halt => throw halt

def turn (c : Call) (replies : List Reply) : Turn :=
  let act : Act Unit :=
    match purposeOf c.name (c.arguments.length + 1) {} c.arguments with
    | .order o => complete o c
    | .print stream text status => do
      let _ ← Act.ask (.write stream (Shell.rawOf text))
      modify fun w => { w with status }
  match act.run.run { replies } with
  | (.ok _, w) => .ends w.status
  | (.error (.asks errand), _) => .asks errand
  | (.error _, _) => .busy

end RLanguageHost.Utility.Records
