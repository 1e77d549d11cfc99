import RLanguageHost.Text.Utf8

/-!
# Shell words

A word of a shell script is a row of parts: literal text, and places where a parameter, the output
of a command or a number is put in. Each part remembers whether it was quoted, because only what is
put in without quotes is split into several words later.

Scripts are bytes. Within the shell a byte is held as the character with its number, so that text of
any encoding passes through unchanged.

Two shells read the same language, but the larger one has more of it, and the two word what they
have to say in their own ways.

The modules on shells are about the processes that a host starts and not about the host: they say
what a script makes of its arguments and input where a script is run in the place of R.
-/

namespace RLanguageHost.Shell

inductive Dialect where
  /-- The small shell of the standard. -/
  | posix
  /-- The larger shell, with more operators and other messages. -/
  | bash
  deriving Repr, DecidableEq, Inhabited

def Dialect.choose {α : Type} (d : Dialect) (posix bash : α) : α :=
  match d with
  | .posix => posix
  | .bash => bash

/-- The text that holds a byte string, one character for each byte. -/
def textOf (bs : Bytes) : String :=
  String.ofList (bs.map fun b => Char.ofNat b.toNat)

/-- The byte string that a text holds. -/
def rawOf (s : String) : Bytes :=
  s.toList.map fun c => UInt8.ofNat c.toNat

/-- Which matches of a pattern are replaced. -/
inductive Occurrence where
  | first
  | all
  | front
  | back
  deriving Repr, DecidableEq, Inhabited

/-- What is done with a parameter before it is put in. Texts are read as words in turn, when they
are needed. -/
inductive Modifier where
  | plain
  | length
  | default (orEmpty : Bool) (text : String)
  | assign (orEmpty : Bool) (text : String)
  | alternative (orEmpty : Bool) (text : String)
  | demand (orEmpty : Bool) (text : String)
  | dropFront (longest : Bool) (pattern : String)
  | dropBack (longest : Bool) (pattern : String)
  | replace (which : Occurrence) (pattern replacement : String)
  /-- A piece of the value, from an offset on. -/
  | slice (offset : String) (count : Option String)
  /-- The characters that match a pattern, the first one or all, as large or small letters. -/
  | changeCase (upper all : Bool) (pattern : String)
  /-- The value in another form, which a letter names. -/
  | transform (letter : Char)
  /-- The names of the variables that start with the parameter's name. -/
  | names
  /-- The shell knows of no such modifier. -/
  | unknown (whole : String)
  deriving Repr, DecidableEq, Inhabited

/-- A parameter that is put in: a variable or special parameter, or an element of an array. -/
structure Parameter where
  name : String
  subscript : Option String := none
  /-- Whether the value is the name of what is meant. -/
  indirect : Bool := false
  modifier : Modifier := .plain
  deriving Repr, DecidableEq, Inhabited

inductive Part where
  | text (text : String) (quoted : Bool)
  | parameter (parameter : Parameter) (quoted : Bool)
  /-- The output of a command. -/
  | output (source : String) (quoted : Bool)
  | arithmetic (source : String)
  /-- An array follows, element by element. -/
  | array
  /-- An element of an array starts, at a key if it has one. -/
  | entry (key : Option String) (appends : Bool)
  /-- The element of an array that the parts after this one are assigned to. -/
  | element (name subscript : String) (appends : Bool)
  /-- A file that leads to the output of a command, or to its input. -/
  | process (writes : Bool) (source : String)
  deriving Repr, DecidableEq, Inhabited

abbrev Word := List Part

/-- The text of a word of which no part was quoted or is put in. -/
def Word.bare? : Word → Option String
  | [.text s false] => some s
  | _ => none

inductive Context where
  /-- In a word of a command, which blanks and operators end. -/
  | bare
  /-- In a regular expression of a condition, which blanks end. -/
  | regex
  /-- Between double quotes. -/
  | quotes
  /-- In a document that is given as input. -/
  | document
  /-- In the text that belongs to a modifier. -/
  | operand
  /-- In the text that belongs to a modifier between double quotes. -/
  | quotedOperand
  deriving Repr, DecidableEq, Inhabited

/-- Whether what is put in here is kept together. -/
def Context.isQuoted : Context → Bool
  | .quotes | .document | .quotedOperand => true
  | .bare | .regex | .operand => false

/-- Whether a character separates the words of a command. -/
def isBreak (c : Char) : Bool :=
  c = ' ' || c = '\t' || c = '\n' || c = ';' || c = '&' || c = '|' || c = '<' || c = '>' || c = '('
    || c = ')'

def Context.endsAt (ctx : Context) (c : Char) : Bool :=
  match ctx with
  | .bare => isBreak c
  | .regex => c = ' ' || c = '\t' || c = '\n'
  | _ => false

/-- Whether a character has a meaning of its own inside of words. -/
def isActive (c : Char) : Bool :=
  c = '\\' || c = '$' || c = '\x60' || c = '"' || c = '\x27'

/-- Whether a backslash takes away the meaning of a character between double quotes. -/
def isEscapable (ctx : Context) (c : Char) : Bool :=
  c = '$' || c = '\x60' || c = '\\' || (c = '"' && ctx ≠ .document)
    || (c = '\x7d' && ctx = .quotedOperand)

def isNameStart (c : Char) : Bool :=
  c.isAlpha || c = '_'

def isNameChar (c : Char) : Bool :=
  c.isAlphanum || c = '_'

/-- Whether a character alone names a parameter. -/
def isSpecialName (c : Char) : Bool :=
  "@*#?$!-".toList.contains c || c.isDigit

def isName (s : String) : Bool :=
  match s.toList with
  | [] => false
  | c :: rest => isNameStart c && rest.all isNameChar

/-- What the last character leaves open for the next one. -/
inductive Carry where
  | nothing
  /-- A backslash guards the next character. -/
  | guard
  /-- A dollar sign gives brackets a meaning. -/
  | dollar
  /-- A word can start. -/
  | gap
  deriving Repr, DecidableEq, Inhabited

/-- Something that was opened: the character that closes it, and for commands in parentheses how
many choices between patterns are open in them. -/
structure Bracket where
  close : Char
  choices : Nat := 0
  /-- Whether commands stand in it. -/
  commands : Bool := false
  /-- Whether single quotes stand for themselves in it. -/
  plainQuotes : Bool := false
  deriving Repr, Inhabited

/-- Whether a word stands at the start of a text by itself. -/
def startsWithWord (word : String) (cs : List Char) : Bool :=
  word.toList.isPrefixOf cs && ((cs.drop word.length).head?).all isBreak

/-- Reads up to the end of what is open, innermost first; the last bracket is dropped. Without an
end the answer is the character that is missing. -/
def balanced (opened : List Bracket) (acc : List Char) (carry : Carry) :
    List Char → Except Char (List Char × List Char)
  | [] => .error ((opened.head?.map (·.close)).getD ')')
  | c :: rest =>
    match opened with
    | [] => .ok (acc.reverse, c :: rest)
    | top :: below =>
      let go (opened : List Bracket) (carry : Carry) := balanced opened (c :: acc) carry rest
      if carry = .guard then go opened .nothing
      else if top.close = '\x27' then
        if c = '\x27' then
          if below.isEmpty then .ok (acc.reverse, rest) else go below .nothing
        else go opened .nothing
      else if c = top.close && !(top.commands && top.choices ≠ 0) then
        if below.isEmpty then .ok (acc.reverse, rest) else go below .nothing
      else if c = '\\' then go opened .guard
      else if c = '$' then go opened .dollar
      else if c = '(' && carry = .dollar && rest.head? = some '(' then
        go ({ close := ')' } :: opened) .dollar
      else if c = '(' && (carry = .dollar || top.commands) then
        go ({ close := ')', commands := true } :: opened) .gap
      else if c = '(' && top.close = ')' then go ({ close := ')' } :: opened) .nothing
      else if c = '[' && top.close = ']' then go ({ close := ']' } :: opened) .nothing
      else if c = '\x7b' && carry = .dollar then
        go ({ close := '\x7d', plainQuotes := top.plainQuotes } :: opened) .nothing
      else if c = '"' || c = '\x60' then go ({ close := c } :: opened) .nothing
      else if c = '\x27' && top.close ≠ '"' && !top.plainQuotes then
        go ({ close := c } :: opened) .nothing
      else if top.commands && carry = .gap && startsWithWord "case" (c :: rest) then
        go ({ top with choices := top.choices + 1 } :: below) .nothing
      else if top.commands && carry = .gap && startsWithWord "esac" (c :: rest) then
        go ({ top with choices := top.choices - 1 } :: below) .nothing
      else if top.commands && isBreak c then go opened .gap
      else go opened .nothing

def upTo (close : Char) (cs : List Char) : Except Char (List Char × List Char) :=
  balanced [{ close }] [] .nothing cs

/-- Reads commands up to the parenthesis that closes them. -/
def commandsUpTo (cs : List Char) : Except Char (List Char × List Char) :=
  balanced [{ close := ')', commands := true }] [] .gap cs

/-- A text up to a character that is not quoted, and what follows the character if it is there. -/
def splitAtMark (mark : Char) (acc : List Char) (quote : Option Char) :
    List Char → List Char × Option (List Char)
  | [] => (acc.reverse, none)
  | '\\' :: c :: rest => splitAtMark mark (c :: '\\' :: acc) quote rest
  | c :: rest =>
    match quote with
    | some q => splitAtMark mark (c :: acc) (if c = q then none else some q) rest
    | none =>
      if c = mark then (acc.reverse, some rest)
      else splitAtMark mark (c :: acc) (if c = '"' || c = '\x27' then some c else none) rest

/-- The modifier that the text after a parameter's name stands for. -/
def modifier (d : Dialect) (whole cs : List Char) : Modifier :=
  let text (l : List Char) := String.ofList l
  let unknown : Modifier := .unknown (text whole)
  match cs with
  | [] => .plain
  | ':' :: '-' :: r => .default true (text r)
  | ':' :: '=' :: r => .assign true (text r)
  | ':' :: '+' :: r => .alternative true (text r)
  | ':' :: '?' :: r => .demand true (text r)
  | '-' :: r => .default false (text r)
  | '=' :: r => .assign false (text r)
  | '+' :: r => .alternative false (text r)
  | '?' :: r => .demand false (text r)
  | '#' :: '#' :: r => .dropFront true (text r)
  | '#' :: r => .dropFront false (text r)
  | '%' :: '%' :: r => .dropBack true (text r)
  | '%' :: r => .dropBack false (text r)
  | _ =>
    match d, cs with
    | .posix, _ => unknown
    | .bash, '/' :: '/' :: r => substitution .all r
    | .bash, '/' :: '#' :: r => substitution .front r
    | .bash, '/' :: '%' :: r => substitution .back r
    | .bash, '/' :: r => substitution .first r
    | .bash, '^' :: '^' :: r => .changeCase true true (text r)
    | .bash, '^' :: r => .changeCase true false (text r)
    | .bash, ',' :: ',' :: r => .changeCase false true (text r)
    | .bash, ',' :: r => .changeCase false false (text r)
    | .bash, ['@', c] => if "UuLQEPAKak".toList.contains c then .transform c else unknown
    | .bash, ':' :: r =>
      let (offset, count) := splitAtMark ':' [] none r
      .slice (text offset) (count.map text)
    | .bash, _ => unknown
where
  /-- A pattern and what replaces it, with a slash between them. -/
  substitution (which : Occurrence) (r : List Char) : Modifier :=
    let (pattern, replacement) := splitAtMark '/' [] none r
    .replace which (String.ofList pattern) (String.ofList (replacement.getD []))

/-- The name at the start of a text: a name, a number or a special character. -/
def leadingName : List Char → List Char × List Char
  | [] => ([], [])
  | c :: rest =>
    if isNameStart c then (c :: rest.takeWhile isNameChar, rest.dropWhile isNameChar)
    else if c.isDigit then (c :: rest.takeWhile Char.isDigit, rest.dropWhile Char.isDigit)
    else if isSpecialName c then ([c], rest)
    else ([], c :: rest)

def leadingSubscript (d : Dialect) : List Char → Option String × List Char
  | '[' :: rest =>
    match d, upTo ']' rest with
    | .bash, .ok (inner, rest) => (some (String.ofList inner), rest)
    | _, _ => (none, '[' :: rest)
  | cs => (none, cs)

/-- The parameter that the text between braces stands for. -/
def bracedParameter (d : Dialect) (cs : List Char) (quoted : Bool) : Part :=
  let read (text : List Char) (change : Parameter → Parameter) : Part :=
    let (name, rest) := leadingName text
    let (subscript, rest) :=
      if name.head?.any isNameStart then leadingSubscript d rest else (none, rest)
    if name.isEmpty then .parameter { name := "", modifier := .unknown (String.ofList cs) } quoted
    else
      .parameter (change
        { name := String.ofList name, subscript, modifier := modifier d cs rest }) quoted
  match d, cs with
  | _, ['#'] => read cs id
  | _, '#' :: rest =>
    let (name, after) := leadingName rest
    let (_, after) := if name.head?.any isNameStart then leadingSubscript d after else (none, after)
    if !name.isEmpty && after.isEmpty then
      read rest fun p => { p with modifier := .length }
    else read cs id
  | .bash, '!' :: c :: rest =>
    if isNameStart c || c.isDigit then
      read (c :: rest) fun p =>
        let afterName := (leadingName (c :: rest)).2
        if afterName = ['@'] || afterName = ['*'] then { p with modifier := .names }
        else { p with indirect := true }
    else read cs id
  | _, _ => read cs id

/-- The character with a number, as bytes. -/
def bytesOfCodePoint (n : Nat) : List Char :=
  (Utf8.encode [Char.ofNat n]).map fun b => Char.ofNat b.toNat

/-- The number that digits in base eight or sixteen spell. -/
def numberIn (base : Nat) (digits : List Char) : Nat :=
  digits.foldl (fun n c =>
    n * base + (if c.isDigit then c.toNat - 48 else c.toLower.toNat - 87)) 0

/-- Whether a character is a digit in base sixteen. -/
def isHexDigit (c : Char) : Bool :=
  c.isDigit || ('a' ≤ c.toLower && c.toLower ≤ 'f')

/-- Whether a character is a digit in base eight. -/
def isOctalDigit (c : Char) : Bool :=
  '0' ≤ c && c ≤ '7'

/-- The characters that backslashes write between single quotes after a dollar sign. -/
def escapes : (fuel : Nat) → List Char → List Char
  | 0, _ | _, [] => []
  | fuel + 1, '\\' :: c :: rest =>
    let number (size base : Nat) (isDigit : Char → Bool) (digits : List Char) :
        Nat × List Char :=
      let found := (digits.take size).takeWhile isDigit
      (numberIn base found, digits.drop found.length)
    if isOctalDigit c then
      let (n, rest) := number 3 8 isOctalDigit (c :: rest)
      Char.ofNat (n % 256) :: escapes fuel rest
    else if c = 'x' && rest.head?.any isHexDigit then
      let (n, rest) := number 2 16 isHexDigit rest
      Char.ofNat n :: escapes fuel rest
    else if (c = 'u' || c = 'U') && rest.head?.any isHexDigit then
      let (n, rest) := number (if c = 'u' then 4 else 8) 16 isHexDigit rest
      bytesOfCodePoint n ++ escapes fuel rest
    else if c = 'c' then
      match rest with
      | d :: rest => Char.ofNat (d.toNat % 32) :: escapes fuel rest
      | [] => []
    else
      match simple.lookup c with
      | some d => d :: escapes fuel rest
      | none => '\\' :: c :: escapes fuel rest
  | fuel + 1, c :: rest => c :: escapes fuel rest
where
  /-- The characters that a backslash writes by one letter or sign. -/
  simple : List (Char × Char) :=
    [('a', '\x07'), ('b', '\x08'), ('e', '\x1b'), ('E', '\x1b'), ('f', '\x0c'), ('n', '\n'),
      ('r', '\r'), ('t', '\t'), ('v', '\x0b'), ('\\', '\\'), ('\x27', '\x27'), ('"', '"'),
      ('?', '?')]

/-- Reads up to a single quote that no backslash guards. -/
def upToQuote (acc : List Char) : List Char → Except Char (List Char × List Char)
  | [] => .error '\x27'
  | '\\' :: c :: rest => upToQuote (c :: '\\' :: acc) rest
  | c :: rest => if c = '\x27' then .ok (acc.reverse, rest) else upToQuote (c :: acc) rest

/-- Reads what follows a dollar sign. -/
def afterDollar (d : Dialect) (quoted : Bool) (cs : List Char) : Except Char (Part × List Char) :=
  match cs with
  | '(' :: '(' :: rest =>
    match balanced [{ close := ')' }, { close := ')' }] [] .nothing rest with
    | .ok (source, rest') =>
      -- the parentheses of a number close right after each other
      if source.getLast? = some ')' then
        .ok (.arithmetic (String.ofList source.dropLast), rest')
      else (commandsUpTo ('(' :: rest)).map fun (source, rest) =>
        (.output (String.ofList source) quoted, rest)
    | .error _ => .error '('
  | '(' :: rest => do
    let (source, rest) ← commandsUpTo rest
    return (.output (String.ofList source) quoted, rest)
  | '\x7b' :: rest => do
    let afterName := match rest.dropWhile isNameChar with
      | r => if r.length = rest.length then r.drop 1 else r
    let isTrim := afterName.head?.any fun c => c = '#' || c = '%'
    let isPlain := d = .posix && quoted
    let (body, rest) ←
      (balanced [{ close := '\x7d', plainQuotes := isPlain && !isTrim }] [] .nothing rest).mapError
        fun close => if isPlain && close = '\x7d' then '"' else close
    return (bracedParameter d body quoted, rest)
  | c :: rest =>
    if isNameStart c then
      .ok (.parameter { name := String.ofList (c :: rest.takeWhile isNameChar) } quoted,
        rest.dropWhile isNameChar)
    else if isSpecialName c then .ok (.parameter { name := String.ofList [c] } quoted, rest)
    else if c = '\x27' && !quoted && d = .bash then do
      let (body, rest) ← upToQuote [] rest
      return (.text (String.ofList (escapes (body.length + 1) body)) true, rest)
    else if c = '"' && !quoted && d = .bash then .ok (.text "" true, cs)
    else .ok (.text "$" quoted, cs)
  | [] => .ok (.text "$" quoted, [])

/-- The command between backquotes, where a backslash guards backquotes, dollar signs and
backslashes, and where backquotes stand between quotes also these. -/
def unguarded (quoted : Bool) : List Char → List Char
  | '\\' :: c :: rest =>
    if c = '\x60' || c = '$' || c = '\\' || (quoted && c = '"') then c :: unguarded quoted rest
    else '\\' :: c :: unguarded quoted rest
  | c :: rest => c :: unguarded quoted rest
  | [] => []

/-- Reads parts; the error is the character that closes what is still open. In a word of a command
the rest starts with what ended the word. -/
def parts (d : Dialect) : (fuel : Nat) → Context → List Char →
    Except Char (List Part × List Char)
  | 0, _, _ => .error '"'
  | fuel + 1, ctx, cs =>
    let quoted := ctx.isQuoted
    let after (first : List Part) (rest : List Char) : Except Char (List Part × List Char) := do
      let (more, rest) ← parts d fuel ctx rest
      return (first ++ more, rest)
    match cs with
    | [] => if ctx = .quotes then .error '"' else .ok ([], [])
    | c :: rest =>
      if ctx = .quotes && c = '"' then .ok ([], rest)
      else if ctx = .quotedOperand && c = '"' then after [] rest
      else if ctx = .bare && d = .bash && (c = '<' || c = '>') && rest.head? = some '(' then do
        let (source, rest) ← commandsUpTo (rest.drop 1)
        after [.process (c = '>') (String.ofList source)] rest
      else if ctx.endsAt c then .ok ([], cs)
      else if c = '\\' then
        match rest with
        | [] => after [.text "\\" true] []
        | '\n' :: rest => after [] rest
        | e :: rest =>
          let shown := if quoted && !isEscapable ctx e then [c, e] else [e]
          after [.text (String.ofList shown) true] rest
      else if c = '$' then do
        let (part, rest) ← afterDollar d quoted rest
        after [part] rest
      else if c = '\x60' then do
        let (source, rest) ← upTo '\x60' rest
        let between := quoted && (d = .posix || ctx ≠ .document)
        after [.output (String.ofList (unguarded between source)) quoted] rest
      else if c = '\x27' && !quoted then do
        let (literal, rest) ← upTo '\x27' rest
        after [.text (String.ofList literal) true] rest
      else if c = '"' && !quoted then do
        let (inner, rest) ← parts d fuel .quotes rest
        after (if inner.isEmpty then [.text "" true] else inner) rest
      else
        let isPlain (e : Char) := !isActive e && !ctx.endsAt e
        after [.text (String.ofList (c :: rest.takeWhile isPlain)) quoted] (rest.dropWhile isPlain)

def Word.read (d : Dialect) (ctx : Context) (cs : List Char) : Except Char (Word × List Char) :=
  parts d (cs.length + 1) ctx cs

def Word.ofText (d : Dialect) (ctx : Context) (text : String) : Word :=
  let cs := text.toList
  match parts d (cs.length + 1) ctx cs with
  | .ok (w, _) => w
  | .error _ => [.text text true]

/-- Reads the elements of an array, each with the key that may be in front of it. -/
def arrayEntries (d : Dialect) : (fuel : Nat) → List Char → Except Char Word
  | 0, _ => .ok []
  | _, [] => .ok []
  | fuel + 1, c :: rest =>
    if c = ' ' || c = '\t' || c = '\n' then arrayEntries d fuel rest
    else if c = '#' then arrayEntries d fuel (rest.dropWhile (· ≠ '\n'))
    else do
      let (entry, cs) : Part × List Char :=
        match leadingSubscript d (c :: rest) with
        | (some key, '=' :: after) => (.entry (some key) false, after)
        | (some key, '+' :: '=' :: after) => (.entry (some key) true, after)
        | _ => (.entry none false, c :: rest)
      let (w, rest') ← Word.read d .bare cs
      -- a character that ends words is passed
      let rest' := if rest'.length < rest.length + 1 then rest' else rest
      return entry :: w ++ (← arrayEntries d fuel rest')

/-- Something that has to happen before a word can be expanded. -/
inductive Pending where
  /-- A command is run for its output. -/
  | output (source : String)
  /-- A command is started whose output, or input, a file leads to. -/
  | process (writes : Bool) (source : String)
  deriving Repr, DecidableEq, Inhabited

end RLanguageHost.Shell
