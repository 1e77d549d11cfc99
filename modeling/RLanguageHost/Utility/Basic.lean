import RLanguageHost.Files.Tree
import RLanguageHost.Shell.Word

/-!
# Utilities

The small programs that scripts call. A utility that works on whole inputs is a function: its
arguments, its surroundings and the inputs it asked for are given, and what it writes, its status
and the files it leaves behind are the answer.

Like shells, utilities are what processes of the machine run, and the host knows nothing of them.
-/

namespace RLanguageHost.Utility

structure Input where
  /-- The name by which it was asked for. -/
  name : String
  content : Except Failure Bytes
  deriving Repr, Inhabited

structure Call where
  name : String
  arguments : List String := []
  environment : List String := []
  directory : Place := []
  tree : FileTree := {}
  inputs : List Input := []
  deriving Repr, Inhabited

/-- How a utility goes through an input of which it writes as it reads. -/
structure Pace where
  /-- Whether each line is written at once. -/
  lineByLine : Bool := false
  /-- Whether it can end before the input does. -/
  mayStop : Bool := false
  /-- Whether it works on lines. -/
  byLines : Bool := true
  deriving Repr, Inhabited

/-- Whether the environment of a call asks for lines to be written at once. -/
def Call.isUnbuffered (c : Call) : Bool :=
  c.environment.contains "_STDBUF_O=L" || c.environment.contains "_STDBUF_O=0"

structure Answer where
  /-- What is written to which streams, in order. -/
  pieces : List (Nat × Bytes) := []
  status : Nat := 0
  /-- The files afterwards, if they are changed. -/
  tree : Option FileTree := none
  /-- A script that is carried out after that. -/
  script : Option String := none
  /-- Whether more input would change nothing. -/
  isDecided : Bool := false
  deriving Repr, Inhabited

namespace Answer

/-- An answer that writes bytes to the standard output. -/
def ofBytes (bs : Bytes) : Answer :=
  { pieces := [(1, bs)] }

/-- An answer that writes text to the standard output. -/
def ofText (s : String) : Answer :=
  .ofBytes (Shell.rawOf s)

def ofStatus (status : Nat) : Answer :=
  { status }

def fault (name text : String) (status : Nat) : Answer :=
  { pieces := [(2, Shell.rawOf (name ++ ": " ++ text ++ "\n"))], status }

/-- One answer after another; the later status counts unless it is zero. -/
def append (a b : Answer) : Answer where
  pieces := a.pieces ++ b.pieces
  status := if b.status = 0 then a.status else b.status
  tree := b.tree.or a.tree
  script := b.script.or a.script

end Answer

/-- The line that says where to find help. -/
def helpHint (name : String) : String :=
  "\nTry \x27" ++ name ++ " --help\x27 for more information."

def describe : Failure → String
  | .system fault => fault.description
  | e => e.message

/-- The lines of a text, without newlines. -/
def linesOf (input : Bytes) : List Bytes :=
  match input with
  | [] => []
  | _ =>
    let parts := FilePath.splitOn 10 input
    if parts.getLast? = some [] then parts.dropLast else parts

def unlines (lines : List Bytes) : Bytes :=
  lines.flatMap (· ++ [10])

def isSpace (b : UInt8) : Bool :=
  b = 32 || (9 ≤ b && b ≤ 13)

/-- The letters of a text in small letters. -/
def lowered (bs : Bytes) : Bytes :=
  bs.map fun b => if 65 ≤ b && b ≤ 90 then b + 32 else b

/-- Whether one byte string comes before another one or is the same. -/
def atMost (a b : Bytes) : Bool :=
  decide (a ≤ b)

/-- A number as text, with blanks in front of it up to a width. -/
def padded (width n : Nat) : String :=
  let s := toString n
  String.ofList (List.replicate (width - s.length) ' ') ++ s

structure Grammar where
  /-- The options by letters. -/
  flags : String
  /-- The options that take a value. -/
  valued : String := ""
  /-- The options by words, with the letters that they stand for. -/
  long : List (String × Char) := []
  /-- Whether options can follow operands. -/
  permutes : Bool := true
  deriving Repr, Inhabited

structure Options where
  /-- The options in order, with their values. -/
  given : List (Char × String) := []
  operands : List String := []
  deriving Repr, Inhabited

namespace Options

def has (o : Options) (c : Char) : Bool :=
  o.given.any (·.1 = c)

def value? (o : Options) (c : Char) : Option String :=
  (o.given.reverse.find? (·.1 = c)).map (·.2)

def values (o : Options) (c : Char) : List String :=
  (o.given.filter (·.1 = c)).map (·.2)

def add (o : Options) (c : Char) (value : String) : Options :=
  { o with given := o.given ++ [(c, value)] }

/-- Reads the letters of one argument. The answer says whether the next argument is a value. -/
def letters (g : Grammar) (o : Options) : List Char → Except String (Options × Option Char)
  | [] => .ok (o, none)
  | c :: rest =>
    if g.valued.toList.contains c then
      if rest.isEmpty then .ok (o, some c) else .ok (o.add c (String.ofList rest), none)
    else if g.flags.toList.contains c then letters g (o.add c "") rest
    else .error ("invalid option -- \x27" ++ String.ofList [c] ++ "\x27")

def word (g : Grammar) (o : Options) (text : List Char) :
    Except String (Options × Option Char) :=
  let name := String.ofList (text.takeWhile (· ≠ '='))
  let value := text.drop (name.length + 1)
  let found :=
    (g.long.find? (·.1 = name)).or
      (match g.long.filter (·.1.startsWith name) with
        | [one] => some one
        | _ => none)
  match found with
  | some (full, c) =>
    let given := name.length < text.length
    if g.valued.toList.contains c then
      if given then .ok (o.add c (String.ofList value), none) else .ok (o, some c)
    else if given && !g.flags.toList.contains '=' then
      .error ("option \x27--" ++ full ++ "\x27 doesn\x27t allow an argument")
    else .ok (o.add c (String.ofList value), none)
  | none => .error ("unrecognized option \x27--" ++ String.ofList text ++ "\x27")

def read (g : Grammar) (o : Options) : List String → Except String Options
  | [] => .ok o
  | a :: rest =>
    let go (r : Except String (Options × Option Char)) : Except String Options :=
      match r, rest with
      | .error e, _ => .error e
      | .ok (o, none), rest => read g o rest
      | .ok (o, some c), value :: rest => read g (o.add c value) rest
      | .ok (_, some c), [] =>
        .error ("option requires an argument -- \x27" ++ String.ofList [c] ++ "\x27")
    match a.toList with
    | ['-', '-'] => .ok { o with operands := o.operands ++ rest }
    | '-' :: '-' :: text => go (word g o text)
    | '-' :: c :: text => go (letters g o (c :: text))
    | _ =>
      if g.permutes then read g { o with operands := o.operands ++ [a] } rest
      else .ok { o with operands := o.operands ++ a :: rest }

end Options

def Call.withOptions (c : Call) (g : Grammar) (status : Nat) (go : Options → Answer) : Answer :=
  match Options.read g {} c.arguments with
  | .ok o => go o
  | .error text => .fault c.name (text ++ helpHint c.name) status

/-- Works on the inputs of a call one by one, and reports those that cannot be read. -/
def Call.eachInput (c : Call) (status : Nat) (work : Input → Bytes → Answer) : Answer :=
  c.inputs.foldl (fun a i =>
    match i.content with
    | .ok bs => a.append (work i bs)
    | .error e => a.append (.fault c.name (i.name ++ ": " ++ describe e) status)) {}

/-- What can be read of all inputs after each other, and the reports about the others. -/
def Call.allInput (c : Call) (status : Nat) : Bytes × Answer :=
  c.inputs.foldl (fun (bs, a) i =>
    match i.content with
    | .ok more => (bs ++ more, a)
    | .error e => (bs, a.append (.fault c.name (i.name ++ ": " ++ describe e) status))) ([], {})

def pathText (place : Place) : String :=
  Shell.textOf (if place.isEmpty then [FilePath.slash] else place.flatMap (FilePath.slash :: ·))

def Call.locate (c : Call) (path : String) : Except Failure (Place × Entry) :=
  c.tree.locate ⟨Shell.rawOf (pathText c.directory)⟩ ⟨Shell.rawOf path⟩

/-!
## Errands

Some programs cannot say at their start what they will need: the rest of an input, the output of a
command, a file whose name they read. Such a program is a function of the replies that it has had so
far, and answers with the next thing that it asks its machine for, or with its end. Since the same
replies lead to the same errands, nothing else has to be kept of it between two of them.
-/

/-- What a program asks its machine for. -/
inductive Errand where
  /-- The content of a file. -/
  | load (path : String)
  /-- At most so many bytes more of the standard input; nothing comes back when it is at its end. -/
  | receive (most : Nat)
  | write (stream : Nat) (bytes : Bytes)
  /-- A file that can be written to; it is emptied, unless what is written goes to its end. -/
  | create (path : String) (appends : Bool)
  /-- Writes to the end of a file. -/
  | extend (path : String) (bytes : Bytes)
  /-- Runs a command, with an input of its own if one is given. If the program collects the output,
  it comes back with the status. -/
  | run (command : String) (input : Option Bytes) (collects : Bool)
  deriving Repr, Inhabited

/-- What comes back from an errand. -/
inductive Reply where
  | done
  | content (content : Except Failure Bytes)
  /-- The status word of a command, and what was collected of its output. -/
  | ran (word : Nat) (output : Bytes)
  deriving Repr, Inhabited

/-- What a program does after the replies that it has had. -/
inductive Turn where
  | asks (errand : Errand)
  | ends (status : Nat)
  /-- It goes on without ever asking for anything again. -/
  | busy
  deriving Repr, Inhabited

end RLanguageHost.Utility
