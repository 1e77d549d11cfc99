import RLanguageHost.Machine.Builtin.Basic

/-!
# Reading into variables

The commands that read a line, or all lines, of an input into variables. A line is split at
separators: each variable takes a field, and the last one takes the rest.
-/

namespace RLanguageHost.Machine

open Shell (Frame ReadRequest LinesRequest)

namespace Actor

/-- A character of a line, and whether a backslash guards it. -/
abbrev Guarded := Char × Bool

/-- The characters of a line, with the ones that a backslash guards marked. -/
def guarded (raw : Bool) : List Char → List Guarded
  | [] => []
  | '\\' :: c :: rest =>
    if raw then ('\\', false) :: guarded raw (c :: rest) else (c, true) :: guarded raw rest
  | ['\\'] => if raw then [('\\', false)] else []
  | c :: rest => (c, false) :: guarded raw rest
termination_by cs => cs.length

def endsField (separators : List Char) (c : Guarded) : Bool :=
  !c.2 && separators.contains c.1

/-- Whether a character is white space that ends a field. -/
def isBlank (separators : List Char) (c : Guarded) : Bool :=
  endsField separators c && (c.1 = ' ' || c.1 = '\t' || c.1 = '\n')

/-- The first field of a line without white space at its start, and what follows it. -/
def firstField (separators : List Char) (cs : List Guarded) : List Guarded × List Guarded :=
  let field := cs.takeWhile fun c => !endsField separators c
  let rest := (cs.drop field.length).dropWhile (isBlank separators)
  let rest :=
    if rest.head?.any (endsField separators) then (rest.drop 1).dropWhile (isBlank separators)
    else rest
  (field, rest)

def textOfGuarded (cs : List Guarded) : String :=
  String.ofList (cs.map (·.1))

/-- The words that a line is read into: each variable takes a field, the last one takes the rest. -/
def readFields (separators : List Char) : (names : List String) → List Guarded →
    List (String × String)
  | [], _ => []
  | [name], cs =>
    let (field, rest) := firstField separators cs
    let whole := (cs.reverse.dropWhile (isBlank separators)).reverse
    [(name, textOfGuarded (if rest.isEmpty then field else whole))]
  | name :: names, cs =>
    let (field, rest) := firstField separators cs
    (name, textOfGuarded field) :: readFields separators names rest

def allFields (separators : List Char) : (fuel : Nat) → List Guarded → List String
  | 0, _ | _, [] => []
  | fuel + 1, cs =>
    let (field, rest) := firstField separators cs
    textOfGuarded field :: allFields separators fuel rest

def assignLine (a : Actor) (request : ReadRequest) (line : Bytes) (status : Nat) : Actor :=
  let cs := guarded request.raw (Shell.textOf line).toList
  let separators := a.s.separators.toList
  let trimmed := cs.dropWhile (isBlank separators)
  match request.array with
  | some name =>
    let fields := allFields separators (trimmed.length + 1) trimmed
    let elements := Shell.Elements.indexed (fields.zipIdx.map fun x => (x.2, x.1))
    { a with s := a.s.assignElements name elements }.done status
  | none =>
    let values :=
      if request.names.isEmpty then [("REPLY", textOfGuarded cs)]
      else if request.exact then
        (request.names.zipIdx.map fun (n, i) => (n, if i = 0 then textOfGuarded cs else ""))
      else readFields separators request.names trimmed
    match values.foldlM (fun (s : Shell.State) (v : String × String) =>
      s.take v.1 none false v.2) a.s with
    | .ok s => { a with s }.done status
    | .error x =>
      a.complain a.s.line (a.choose "read: " "" ++ x.text) (a.choose 2 1)

/-- Whether a line that was read so far ends in a backslash that guards what follows. -/
def endsGuarded (raw : Bool) (line : Bytes) : Bool :=
  !raw && (line.reverse.takeWhile (· = 0x5C)).length % 2 = 1

def delimiterOf (text : Option String) : UInt8 :=
  match text with
  | none => 10
  | some t => (Shell.rawOf t).head?.getD 0

/-- `read`. -/
def readLine (a : Actor) (line : Nat) (arguments : List String) : Actor :=
  a.withFlags line "read" (a.choose "r" "ers") (a.choose "p" "adiNnptu") arguments
    fun flags names =>
      match a.s.dialect, (names ++ (flags.value? 'a').toList).find? fun n => !Shell.isName n with
      | .posix, some bad => a.complain line (a.badName "read" bad) 2
      | .bash, some bad => a.complain line (a.badName "read" bad) 1
      | dialect, none =>
        if dialect = .posix && names.isEmpty then a.complain line "read: arg count" 2
        else
          let number (c : Char) : Option Nat := (flags.value? c).bind String.toNat?
          let stream := (number 'u').getD 0
          let time := (flags.value? 't').bind sleepTime?
          let request : ReadRequest :=
            { raw := flags.has 'r', names, array := flags.value? 'a', stream
              delimiter := delimiterOf (flags.value? 'd')
              count := (number 'N').or (number 'n'), exact := flags.has 'N'
              deadline := time.map (· + a.m.clock) }
          if (a.p.streams.lookup stream).isNone then
            if flags.has 'u' then
              a.complain line ("read: " ++ toString stream
                ++ ": invalid file descriptor: Bad file descriptor") 1
            else a.choose (a.assignLine request [] 1)
              (a.complain line "read: read error: 0: Bad file descriptor" 1)
          else if flags.has 't' && time.isNone then
            a.complain line ("read: " ++ (flags.value? 't').getD ""
              ++ ": invalid timeout specification") 1
          else a.push (.read request [])

def splitInput (delimiter : UInt8) (acc : Bytes) : Bytes → List Bytes
  | [] => if acc.isEmpty then [] else [acc.reverse]
  | b :: rest =>
    if b = delimiter then (b :: acc).reverse :: splitInput delimiter [] rest
    else splitInput delimiter (b :: acc) rest

def assignLines (a : Actor) (request : LinesRequest) (input : Bytes) : Actor :=
  let all := (splitInput request.delimiter [] input).drop request.skip
  let all := match request.count with
    | some n => if n = 0 then all else all.take n
    | none => all
  let trim (piece : Bytes) : Bytes :=
    if request.trims && piece.getLast? = some request.delimiter then piece.dropLast else piece
  let texts := all.map fun piece => Shell.textOf (trim piece)
  let start := request.origin.getD 0
  let before : Shell.Elements :=
    if request.origin.isSome then (a.s.bindingOrNew request.array).asElements else .indexed []
  let elements := texts.zipIdx.foldl (fun (e : Shell.Elements) (t, i) =>
    e.insert (toString (start + i)) t) before
  { a with s := a.s.assignElements request.array elements }.done 0

/-- `mapfile` and `readarray`. -/
def readLines (a : Actor) (line : Nat) (name : String) (arguments : List String) : Actor :=
  a.withFlags line name "t" "dnOsuCc" arguments fun flags operands =>
    let number (c : Char) : Option Nat := (flags.value? c).bind String.toNat?
    let array := operands.head?.getD "MAPFILE"
    if !Shell.isName array then a.complain line (a.badName name array) 1
    else
      a.push (.readLines
        { array, trims := flags.has 't', stream := (number 'u').getD 0
          delimiter := delimiterOf (flags.value? 'd'), count := number 'n'
          skip := (number 's').getD 0, origin := number 'O' } [])

end Actor

end RLanguageHost.Machine
