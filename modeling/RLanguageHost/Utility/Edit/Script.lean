import RLanguageHost.Text.Regex.Reader
import RLanguageHost.Utility.Basic

/-!
# Editing scripts

The scripts of `sed`: commands, each for the lines that its addresses mean. Blocks are laid out
flat: the command that opens a block knows where the block ends.
-/

namespace RLanguageHost.Utility.Edit

/-- What lines an address means. -/
inductive Address where
  /-- Before all lines. -/
  | start
  | line (n : Nat)
  | last
  /-- Lines that match; without an expression the one that was used last. -/
  | regex (r : Option Regex)
  /-- Every so many lines, from one on. -/
  | step (first stride : Nat)
  deriving Repr, Inhabited

/-- Where a range of lines ends. -/
inductive Stop where
  | address (a : Address)
  /-- So many lines later. -/
  | count (n : Nat)
  /-- At a multiple of a number. -/
  | multiple (n : Nat)
  deriving Repr, Inhabited

inductive Part where
  | text (bs : Bytes)
  /-- The whole match for zero, else a group. -/
  | group (n : Nat)
  /-- The letters that follow change: `U`, `L`, `u`, `l`, or `E` for no change. -/
  | letters (c : Char)
  deriving Repr, Inhabited

structure Substitution where
  regex : Option Regex
  replacement : List Part
  all : Bool := false
  number : Nat := 1
  prints : Bool := false
  deriving Repr, Inhabited

inductive Action where
  | substitute (s : Substitution)
  | exchange (table : List (UInt8 × UInt8))
  | append (text : Bytes)
  | insert (text : Bytes)
  | change (text : Bytes)
  | readFile (path : String)
  | writeFile (path : String)
  /-- Goes to the command after a label, or to the end; always, or depending on substitutions. -/
  | branch (onlyIf : Option Bool) (label : String)
  | label (name : String)
  /-- A block that ends before the command with a number. -/
  | block (close : Nat)
  | close
  /-- Ends, with or without printing. -/
  | quit (prints : Bool) (status : Nat)
  /-- A command that is only a letter. -/
  | letter (c : Char)
  deriving Repr, Inhabited

structure Command where
  first : Option Address := none
  stop : Option Stop := none
  negated : Bool := false
  action : Action
  deriving Repr, Inhabited

/-- Why a script cannot be read: what is wrong, and how many characters before that were read. -/
structure ScriptFault where
  text : String
  place : Option Nat
  deriving Repr, Inhabited

structure Cursor where
  size : Nat
  rest : List Char
  spelling : Regex.Spelling
  deriving Inhabited

abbrev Reading (α : Type) := StateT Cursor (Except ScriptFault) α

def giveUp {α : Type} (text : String) : Reading α := do
  let c ← get
  throw ⟨text, some (c.size - c.rest.length)⟩

def next? : Reading (Option Char) := do
  return (← get).rest.head?

/-- Passes so many characters. -/
def pass (n : Nat) : Reading Unit :=
  modify fun c => { c with rest := c.rest.drop n }

/-- Passes characters of a kind, and gives them. -/
def takeWhile (p : Char → Bool) : Reading (List Char) := do
  let found := (← get).rest.takeWhile p
  pass found.length
  return found

def passBlanks : Reading Unit := do
  let _ ← takeWhile fun c => c = ' ' || c = '\t'

def number : Reading Nat := do
  return Shell.numberIn 10 (← takeWhile Char.isDigit)

/-- A text up to a mark that no backslash guards, and what follows it. A guarded mark stands for
itself; brackets keep the mark when `brackets` says so. -/
def upToMark (mark : Char) (brackets : Bool) : (fuel : Nat) → List Char →
    Option (List Char × List Char)
  | 0, _ | _, [] => none
  | fuel + 1, '\\' :: c :: rest => do
    let (found, rest) ← upToMark mark brackets fuel rest
    if c = mark then return (c :: found, rest)
    else if c = 'n' && brackets then return ('\n' :: found, rest)
    else return ('\\' :: c :: found, rest)
  | fuel + 1, c :: rest =>
    if c = mark then some ([], rest)
    else do
      let inner := if brackets && c = '[' then bracketLength rest else 0
      let (found, rest') ← upToMark mark brackets fuel (rest.drop inner)
      return (c :: rest.take inner ++ found, rest')
where
  /-- The length of a class after its opening bracket, or zero if none closes it. -/
  bracketLength (cs : List Char) : Nat :=
    let lead := if cs.head? = some '^' then 1 else 0
    let lead := if (cs.drop lead).head? = some ']' then lead + 1 else lead
    let inner := classBody (cs.length + 1) (cs.drop lead)
    if (cs.drop (lead + inner)).isEmpty then 0 else lead + inner + 1
  /-- The length of a class up to its closing bracket, past named classes. -/
  classBody : (fuel : Nat) → List Char → Nat
    | 0, _ | _, [] => 0
    | fuel + 1, '[' :: ':' :: rest =>
      let name := (rest.takeWhile (· ≠ ':')).length
      name + 4 + classBody fuel (rest.drop (name + 2))
    | fuel + 1, c :: rest => if c = ']' then 0 else classBody fuel rest + 1

def delimited (mark : Char) (brackets : Bool) (fault : String) : Reading (List Char) := do
  let c ← get
  match upToMark mark brackets (c.rest.length + 1) c.rest with
  | some (found, rest) =>
    set { c with rest }
    return found
  | none =>
    pass c.rest.length
    giveUp fault

/-- Why a text is no regular expression. -/
def regexFault (cs : List Char) : String :=
  if cs.contains '(' && !cs.contains ')' then "Unmatched ( or \\("
  else if cs.contains ')' && !cs.contains '(' then "Unmatched ) or \\)"
  else if cs.contains '[' && !cs.contains ']' then "unterminated address regex"
  else if cs.contains '\x7b' && !cs.contains '\x7d' then "Unmatched \x7b"
  else "Invalid preceding regular expression"

/-- The expression that a text stands for; none for an empty text. -/
def expression (ignoresCase : Bool) (cs : List Char) : Reading (Option Regex) := do
  if cs.isEmpty then return none
  let s := (← get).spelling
  match Regex.ofText? { s with ignoresCase } (String.ofList cs) with
  | some r => return some r
  | none => giveUp (regexFault cs)

def address? : Reading (Option Address) := do
  match ← next? with
  | some c =>
    if c.isDigit then
      let n ← number
      if (← next?) = some '~' then
        pass 1
        return some (.step n (← number))
      return some (if n = 0 then .start else .line n)
    else if c = '$' then
      pass 1
      return some .last
    else if c = '/' || c = '\\' then
      pass 1
      let mark ← (if c = '/' then pure '/' else do
        let m := (← next?).getD '/'
        pass 1
        return m)
      let text ← delimited mark true "unterminated address regex"
      let flags ← takeWhile fun c => c = 'I' || c = 'M'
      return some (.regex (← expression (flags.contains 'I') text))
    else return none
  | none => return none

/-- Reads the end of a range after its comma. -/
def stop : Reading Stop := do
  match ← next? with
  | some '+' =>
    pass 1
    return .count (← number)
  | some '~' =>
    pass 1
    return .multiple (← number)
  | _ =>
    match ← address? with
    | some a => return .address a
    | none => giveUp "unexpected \x60,\x27"

def raw (cs : List Char) : Bytes :=
  cs.map Regex.byte

def replacement : List Char → List Part
  | '\\' :: c :: rest =>
    (if c.isDigit then .group (c.toNat - 48)
      else if c = 'n' then .text [10]
      else if c = 't' then .text [9]
      else if "ULulE".toList.contains c then .letters c
      else .text [Regex.byte c]) :: replacement rest
  | '&' :: rest => .group 0 :: replacement rest
  | c :: rest => .text [Regex.byte c] :: replacement rest
  | [] => []

def flags : (fuel : Nat) → Substitution × Bool → Reading (Substitution × Bool)
  | 0, s => return s
  | fuel + 1, (s, ignoresCase) => do
    match ← next? with
    | some 'g' =>
      pass 1
      flags fuel ({ s with all := true }, ignoresCase)
    | some 'p' =>
      pass 1
      flags fuel ({ s with prints := true }, ignoresCase)
    | some 'i' | some 'I' =>
      pass 1
      flags fuel (s, true)
    | some 'm' | some 'M' | some 'e' =>
      pass 1
      flags fuel (s, ignoresCase)
    | some c =>
      if c.isDigit then
        let n ← number
        if n = 0 then giveUp "number option to \x60s\x27 command may not be zero"
        flags fuel ({ s with number := n }, ignoresCase)
      else if c = '\n' || c = ';' || c = ' ' || c = '\t' || c = '\x7d' || c = '#' then
        return (s, ignoresCase)
      else
        pass 1
        giveUp "unknown option to \x60s\x27"
    | none => return (s, ignoresCase)

def substitution : Reading Action := do
  let mark := (← next?).getD '/'
  let unterminated := "unterminated \x60s\x27 command"
  if (← next?).isNone then giveUp unterminated
  pass 1
  let pattern ← delimited mark true unterminated
  let new ← delimited mark false unterminated
  let fuel := (← get).rest.length + 1
  let (s, ignoresCase) ← flags fuel ({ regex := none, replacement := replacement new }, false)
  return .substitute { s with regex := ← expression ignoresCase pattern }

/-- The characters of a text in which backslashes guard. -/
def unguarded : List Char → List Char
  | '\\' :: 'n' :: rest => '\n' :: unguarded rest
  | '\\' :: 't' :: rest => '\t' :: unguarded rest
  | '\\' :: c :: rest => c :: unguarded rest
  | c :: rest => c :: unguarded rest
  | [] => []

def exchanged : Reading Action := do
  let mark := (← next?).getD '/'
  let unterminated := "unterminated \x60y\x27 command"
  pass 1
  let old := unguarded (← delimited mark false unterminated)
  let new := unguarded (← delimited mark false unterminated)
  if old.length ≠ new.length then giveUp "strings for \x60y\x27 command are different lengths"
  return .exchange ((raw old).zip (raw new))

/-- The lines of a text up to one that ends without a backslash, and what follows. -/
def textLines : (fuel : Nat) → List Char → List Char × List Char
  | 0, cs => ([], cs)
  | _, [] => (['\n'], [])
  | fuel + 1, '\\' :: c :: rest =>
    let (found, rest) := textLines fuel rest
    (c :: found, rest)
  | fuel + 1, c :: rest =>
    if c = '\n' then (['\n'], rest)
    else
      let (found, rest) := textLines fuel rest
      (c :: found, rest)

def addedText : Reading Bytes := do
  passBlanks
  let c ← get
  if c.rest.isEmpty then giveUp "expected \\ after \x60a\x27, \x60c\x27 or \x60i\x27"
  let rest :=
    match c.rest with
    | '\\' :: rest =>
      let after := rest.dropWhile fun c => c = ' ' || c = '\t'
      if after.head? = some '\n' then after.drop 1 else rest
    | rest => rest
  let (text, rest) := textLines (rest.length + 1) rest
  set { c with rest }
  return if text = ['\n'] then [] else raw text

def name (isLabel : Bool) : Reading String := do
  passBlanks
  let cs ← takeWhile fun c => c ≠ '\n' && !(isLabel && (c = ';' || c = '\x7d'))
  return String.ofList (cs.reverse.dropWhile (· = ' ')).reverse

def action : Reading Action := do
  let missing := "missing command"
  match ← next? with
  | none => giveUp missing
  | some c =>
    pass 1
    match c with
    | 's' => substitution
    | 'y' => exchanged
    | 'a' => return .append (← addedText)
    | 'i' => return .insert (← addedText)
    | 'c' => return .change (← addedText)
    | 'r' => return .readFile (← fileName)
    | 'w' => return .writeFile (← fileName)
    | 'b' => return .branch none (← name true)
    | 't' => return .branch (some true) (← name true)
    | 'T' => return .branch (some false) (← name true)
    | ':' => return .label (← name true)
    | '\x7b' => return .block 0
    | '\x7d' => return .close
    | 'q' | 'Q' =>
      passBlanks
      return .quit (c = 'q') (← number)
    | _ =>
      if "dDpPnNgGhHx=lz".toList.contains c then return .letter c
      else if c = '\n' || c = ';' then giveUp missing
      else giveUp ("unknown command: \x60" ++ String.ofList [c] ++ "\x27")
where
  /-- Reads the name of a file. -/
  fileName : Reading String := do
    let n ← name false
    if n = "" then giveUp "missing filename in r/R/w/W commands"
    return n

/-- Reads commands; the numbers of the blocks that are open come first. -/
def commands : (fuel : Nat) → List Nat → Array Command → Reading (Array Command)
  | 0, _, done => return done
  | fuel + 1, opened, done => do
    let _ ← takeWhile fun c => c = ' ' || c = '\t' || c = '\n' || c = ';'
    match ← next? with
    | none =>
      if opened.isEmpty then return done
      else throw ⟨"unmatched \x60\x7b\x27", some 0⟩
    | some '#' =>
      let _ ← takeWhile (· ≠ '\n')
      commands fuel opened done
    | some _ =>
      let first ← address?
      passBlanks
      let range ← (do
        if first.isSome && (← next?) = some ',' then
          pass 1
          passBlanks
          return some (← stop)
        else return none)
      passBlanks
      let marks ← takeWhile fun c => c = '!' || c = ' '
      let negated := marks.contains '!'
      let a ← action
      let command : Command := { first, stop := range, negated, action := a }
      match a with
      | .block _ => commands fuel (done.size :: opened) (done.push command)
      | .close =>
        match opened with
        | [] => giveUp "unexpected \x60\x7d\x27"
        | n :: opened =>
          let done := done.modify n fun c => { c with action := .block done.size }
          endCommand
          commands fuel opened (done.push command)
      | .append _ | .insert _ | .change _ => commands fuel opened (done.push command)
      | _ =>
        endCommand
        commands fuel opened (done.push command)
where
  /-- Looks at what follows a command. -/
  endCommand : Reading Unit := do
    passBlanks
    match ← next? with
    | some c =>
      if c ≠ ';' && c ≠ '\n' && c ≠ '\x7d' && c ≠ '#' then
        pass 1
        giveUp "extra characters after command"
    | none => return

def commandsOf (extended : Bool) (script : String) : Except ScriptFault (Array Command) := do
  let cs := script.toList
  let cursor : Cursor :=
    { size := cs.length, rest := cs, spelling := { extended, bracketEscapes := true } }
  let (found, _) ← (commands (2 * cs.length + 2) [] #[]).run cursor
  let labels := found.toList.filterMap fun c =>
    match c.action with
    | .label n => some n
    | _ => none
  found.forM fun c =>
    match c.action with
    | .branch _ n =>
      if n ≠ "" && !labels.contains n then
        throw ⟨"can\x27t find label for jump to \x60" ++ n ++ "\x27", none⟩
      else pure ()
    | _ => pure ()
  return found

end RLanguageHost.Utility.Edit
