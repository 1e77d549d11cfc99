import RLanguageHost.Shell.Test.Reader

/-!
# Shell scripts

A script is carried out line by line, as far as it can be read: a line is what lies between two
newlines that are not inside of a command. A fault shows when the lines before it are done.
-/

namespace RLanguageHost.Shell

/-- The commands of a script, by lines, and where it cannot be read on. -/
structure Script where
  lines : List Command
  fault : Option SyntaxFault
  deriving Repr, DecidableEq, Inhabited

namespace Script

structure Cursor where
  dialect : Dialect
  tokens : List Token
  documents : List Word
  /-- The text of the script, by lines. -/
  source : Array String := #[]
  firstLine : Nat := 1
  /-- The line of the token before. -/
  line : Nat := 1
  lastLine : Nat := 1

def Cursor.kind? (c : Cursor) : Option TokenKind :=
  c.tokens.head?.map Token.kind

def Cursor.nextLine (c : Cursor) : Nat :=
  (c.tokens.head?.map (·.line)).getD c.lastLine

def Cursor.textAt (c : Cursor) (line : Nat) : String :=
  (c.source[line - c.firstLine]?).getD ""

abbrev Reading (α : Type) := StateT Cursor (Except SyntaxFault) α

def next? : Reading (Option TokenKind) := do
  return (← get).kind?

def pass : Reading Unit :=
  modify fun c =>
    match c.tokens with
    | [] => c
    | t :: rest => { c with tokens := rest, line := t.line }

/-- The words that structure commands. -/
def reserved : List String :=
  ["if", "then", "elif", "else", "fi", "while", "until", "do", "done", "for", "in", "case",
    "esac", "\x7b", "\x7d", "!"]

/-- Whether an operator leads a stream elsewhere. -/
def isRedirection (op : String) : Bool :=
  [">", "<", ">>", "<<", "<<-", "<&", ">&", "<>", ">|", "<<<", "&>", "&>>"].contains op

/-- How a message calls a token: the small shell names its kind, the larger one quotes it. -/
def nameOf (d : Dialect) (kind : TokenKind) : String :=
  match d, kind with
  | .bash, .word w => Scan.literalText w
  | .bash, .newline => "newline"
  | .bash, .operator op => op
  | .bash, .stream n => toString n
  | .bash, .document _ => "<<"
  | .bash, .arithmetic _ => "(("
  | .bash, .test _ => "[["
  | .posix, .word w =>
    match w.bare? with
    | some s => if reserved.contains s then "\"" ++ s ++ "\"" else "word"
    | none => "word"
  | .posix, .newline => "newline"
  | .posix, .operator op => if isRedirection op then "redirection" else "\"" ++ op ++ "\""
  | .posix, .stream _ => "redirection"
  | .posix, _ => "word"

/-- Gives up at the next token. -/
def unexpected {α : Type} (wanted : Option String) : Reading α := do
  let c ← get
  match c.kind? with
  | none => throw (.ended c.lastLine wanted)
  | some kind => throw (.unexpected c.nextLine (nameOf c.dialect kind) wanted (c.textAt c.nextLine))

def passNewlines : Reading Unit :=
  modify fun c => { c with tokens := c.tokens.dropWhile fun t => t.kind = .newline }

def operator? : Reading (Option String) := do
  match ← next? with
  | some (.operator op) => return some op
  | _ => return none

/-- The next token if it is a word that can be a reserved one. -/
def keyword? : Reading (Option String) := do
  match ← next? with
  | some (.word w) => return w.bare?
  | _ => return none

/-- Passes a reserved word that has to come now. -/
def need (word : String) : Reading Unit := do
  if (← keyword?) = some word then pass else unexpected (some ("\"" ++ word ++ "\""))

/-- Passes an operator that has to come now. -/
def needOperator (op : String) : Reading Unit := do
  if (← operator?) = some op then pass else unexpected (some ("\"" ++ op ++ "\""))

/-- Whether a list of commands ends here. -/
def atEnd : Reading Bool := do
  match ← next? with
  | none => return true
  | some (.operator op) => return [")", ";;", ";&", ";;&"].contains op
  | some (.word w) =>
    return w.bare?.any fun s =>
      ["then", "else", "elif", "fi", "do", "done", "esac", "\x7d"].contains s
  | _ => return false

/-- How an operator opens the target of a redirection, and the stream that it leads elsewhere if
none is named. -/
def opening? (op : String) : Option (Opening × Nat) :=
  match op with
  | "<" => some (.input, 0)
  | ">" | ">|" | "&>" => some (.output, 1)
  | ">>" | "&>>" => some (.appending, 1)
  | "<>" => some (.both, 0)
  | "<&" => some (.sameAs, 0)
  | ">&" => some (.sameAs, 1)
  | "<<" | "<<-" => some (.document, 0)
  | "<<<" => some (.line, 0)
  | _ => none

def namesStream (w : Word) : Bool :=
  match w with
  | [.text s _] => s = "-" || (s.toList.all fun c => c.isDigit || c = '-')
  | _ => true

def redirection? : Reading (Option (List Redirection)) := do
  let named ← (do
    match ← next? with
    | some (.stream n) =>
      pass
      return some n
    | _ => return none)
  let op ← operator?
  match op.bind opening? with
  | none => return none
  | some (opening, usual) =>
    pass
    match ← next? with
    | some (.word target) =>
      pass
      let errors : Redirection := ⟨2, .sameAs, [.text "1" false]⟩
      if op = some "&>" || op = some "&>>" then return some [⟨1, opening, target⟩, errors]
      else if op = some ">&" && named.isNone && (← get).dialect = .bash && !namesStream target then
        return some [⟨1, .output, target⟩, errors]
      else return some [⟨named.getD usual, opening, target⟩]
    | some (.document n) =>
      pass
      return some [⟨named.getD usual, .document, ((← get).documents[n]?).getD []⟩]
    | _ => unexpected none

def redirections : (fuel : Nat) → Reading (List Redirection)
  | 0 => return []
  | fuel + 1 => do
    match ← redirection? with
    | none => return []
    | some rs => return rs ++ (← redirections fuel)

def assignment? (d : Dialect) : Word → Option Assignment
  | .element name subscript appends :: value =>
    some { name, subscript := some subscript, appends, value }
  | .text s false :: rest =>
    let name := s.toList.takeWhile isNameChar
    let (appends, after) :=
      match d, s.toList.drop name.length with
      | .bash, '+' :: after => (true, after)
      | _, after => (false, after)
    match after with
    | '=' :: value =>
      if isName (String.ofList name) then
        let value := if value.isEmpty then rest else .text (String.ofList value) false :: rest
        some { name := String.ofList name, appends, value }
      else none
    | _ => none
  | _ => none

def words : (fuel : Nat) → Reading (List Word)
  | 0 => return []
  | fuel + 1 => do
    match ← next? with
    | some (.word w) =>
      pass
      return w :: (← words fuel)
    | _ => return []

/-- Reads the patterns of an arm. The small shell takes any token for a pattern. -/
def patterns : (fuel : Nat) → Reading (List Word)
  | 0 => unexpected none
  | fuel + 1 => do
    let read (w : Word) : Reading (List Word) := do
      pass
      if (← operator?) = some "|" then
        pass
        return w :: (← patterns fuel)
      else return [w]
    match ← next?, (← get).dialect with
    | some (.word w), _ => read w
    | some _, .posix => read []
    | _, _ => unexpected (some "\")\"")

/-- Passes the parenthesis that closes a pattern or the name of a function. Words are not looked at
as reserved ones there. -/
def needClosing : Reading Unit := do
  match ← next?, (← get).dialect with
  | some (.word _), .posix =>
    let c ← get
    throw (.unexpected c.nextLine "word" (some "\")\"") (c.textAt c.nextLine))
  | _, _ => needOperator ")"

def simpleRest : (fuel : Nat) → Simple → Reading Simple
  | 0, c => return c
  | fuel + 1, c => do
    match ← redirection? with
    | some rs => simpleRest fuel { c with redirections := c.redirections ++ rs }
    | none =>
      match ← next? with
      | some (.word w) =>
        pass
        match c.words, assignment? (← get).dialect w with
        | [], some a => simpleRest fuel { c with assignments := c.assignments ++ [a] }
        | _, _ => simpleRest fuel { c with words := c.words ++ [w] }
      | _ => return c

/-- The name that a simple command gives to a function, if parentheses follow it; a word that is no
name is empty text. -/
def functionName? (d : Dialect) (c : Simple) : Option String :=
  match d, c.assignments, c.words, c.redirections with
  | .posix, [], [w], [] => some (w.bare?.getD "")
  | .bash, [], [w], [] => w.bare?
  | _, _, _, _ => none

/-- The commands of the small shell whose names cannot be those of functions. -/
def specialNames : List String :=
  [".", ":", "break", "continue", "eval", "exec", "exit", "export", "readonly", "return", "set",
    "shift", "times", "trap", "unset"]

/-- The three numbers of a loop that counts. -/
def splitCount (source : String) : Option (String × String × String) :=
  match (source.splitOn ";") with
  | [a, b, c] => some (a, b, c)
  | _ => none

mutual

/-- Reads commands up to the end of a list, or of the line. -/
def list (inLine : Bool) : (fuel : Nat) → Reading Command
  | 0 => unexpected none
  | fuel + 1 => do
    passNewlines
    if (← next?).isNone then return .nothing
    let first ← chain fuel
    listRest inLine fuel .nothing first

def listRest (inLine : Bool) : (fuel : Nat) → Command → Command → Reading Command
  | 0, _, _ => unexpected none
  | fuel + 1, before, last => do
    let join (a b : Command) : Command := if a = .nothing then b else .sequence a b
    match ← next? with
    | some (.operator ";") =>
      pass
      continueList inLine fuel (join before last)
    | some (.operator "&") =>
      pass
      continueList inLine fuel (join before (.background last))
    | some .newline =>
      if inLine then return join before last
      else
        passNewlines
        continueList inLine fuel (join before last)
    | _ => return join before last

def continueList (inLine : Bool) : (fuel : Nat) → Command → Reading Command
  | 0, _ => unexpected none
  | fuel + 1, before => do
    if !inLine then passNewlines
    if (← atEnd) || (← next?) = some .newline then return before
    let next ← chain fuel
    listRest inLine fuel before next

/-- Reads pipelines joined by conditions. -/
def chain : (fuel : Nat) → Reading Command
  | 0 => unexpected none
  | fuel + 1 => do
    let first ← negatable fuel
    chainRest fuel first

def chainRest : (fuel : Nat) → Command → Reading Command
  | 0, _ => unexpected none
  | fuel + 1, first => do
    match ← operator? with
    | some "&&" =>
      pass
      passNewlines
      let second ← negatable fuel
      chainRest fuel (.both first second)
    | some "||" =>
      pass
      passNewlines
      let second ← negatable fuel
      chainRest fuel (.either first second)
    | _ => return first

def negatable : (fuel : Nat) → Reading Command
  | 0 => unexpected none
  | fuel + 1 => do
    if (← keyword?) = some "!" then
      pass
      if (← keyword?) = some "!" && (← get).dialect = .posix then unexpected none
      let line := (← get).line
      let isAlone := match ← next? with
        | none | some .newline | some (.operator ";") => true
        | _ => false
      if isAlone && (← get).dialect = .bash then
        return .negation (.simple { line, words := [[.text ":" false]] })
      return .negation (← negatable fuel)
    else pipeline fuel

def pipeline : (fuel : Nat) → Reading Command
  | 0 => unexpected none
  | fuel + 1 => do
    let first ← command fuel
    match ← operator? with
    | some "|" =>
      pass
      passNewlines
      return .pipeline false first (← pipeline fuel)
    | some "|&" =>
      pass
      passNewlines
      return .pipeline true first (← pipeline fuel)
    | _ => return first

def command : (fuel : Nat) → Reading Command
  | 0 => unexpected none
  | fuel + 1 => do
    let line := (← get).nextLine
    match ← compound? fuel with
    | some c =>
      let rs ← redirections fuel
      return if rs.isEmpty then c else .redirected line c rs
    | none =>
      if ← atEnd then unexpected none
      if (← keyword?) = some "!" then unexpected none
      let d := (← get).dialect
      let second := match d, (← get).tokens with
        | .bash, ⟨.word w, _⟩ :: t :: _ => if (assignment? d w).isSome then line else t.line
        | _, _ => line
      let c ← simpleRest fuel { line := second }
      if c.words.isEmpty && c.assignments.isEmpty && c.redirections.isEmpty then unexpected none
      match functionName? d c, ← operator? with
      | some name, some "(" =>
        pass
        needClosing
        if d = .posix && (!isName name || specialNames.contains name) then
          throw (.badName line false name ((← get).textAt line))
        passNewlines
        return .define name (← functionBody fuel)
      | _, _ => return .simple c

/-- Reads the body of a function, which in the larger shell is a command made of others. -/
def functionBody : (fuel : Nat) → Reading Command
  | 0 => unexpected none
  | fuel + 1 => do
    let line := (← get).nextLine
    match (← get).dialect with
    | .posix => command fuel
    | .bash =>
      match ← compound? fuel with
      | some c =>
        let rs ← redirections fuel
        return if rs.isEmpty then c else .redirected line c rs
      | none => unexpected none

def function : (fuel : Nat) → Reading Command
  | 0 => unexpected none
  | fuel + 1 => do
    match ← next? with
    | some (.word w) =>
      pass
      if (← operator?) = some "(" then
        pass
        needOperator ")"
      passNewlines
      return .define (Scan.literalText w) (← functionBody fuel)
    | _ => unexpected none

def compound? : (fuel : Nat) → Reading (Option Command)
  | 0 => unexpected none
  | fuel + 1 => do
    let line := (← get).nextLine
    match ← next? with
    | some (.operator "(") =>
      pass
      let body ← list false fuel
      needOperator ")"
      return some (.subshell body)
    | some (.arithmetic source) =>
      pass
      return some (.arithmetic line source)
    | some (.test tokens) =>
      let c ← get
      match Test.ofTokens line c.lastLine tokens with
      | .ok t =>
        pass
        return some (.test line t)
      | .error fault =>
        throw (.condition fault.line fault.texts fault.near (c.textAt fault.line))
    | some (.word w) =>
      match w.bare? with
      | some "\x7b" =>
        pass
        let body ← list false fuel
        need "\x7d"
        return some body
      | some "if" =>
        pass
        return some (← conditional fuel)
      | some "while" =>
        pass
        return some (← loop false fuel)
      | some "until" =>
        pass
        return some (← loop true fuel)
      | some "for" =>
        pass
        return some (← each fuel)
      | some "case" =>
        pass
        return some (← choice fuel)
      | some "function" =>
        if (← get).dialect = .bash then
          pass
          return some (← function fuel)
        else return none
      | _ => return none
    | _ => return none

def conditional : (fuel : Nat) → Reading Command
  | 0 => unexpected none
  | fuel + 1 => do
    let test ← list false fuel
    need "then"
    let yes ← list false fuel
    match ← keyword? with
    | some "elif" =>
      pass
      return .conditional test yes (← conditional fuel)
    | some "else" =>
      pass
      let no ← list false fuel
      need "fi"
      return .conditional test yes no
    | _ =>
      need "fi"
      return .conditional test yes .nothing

/-- Reads what stands between `do` and `done`. -/
def body : (fuel : Nat) → Reading Command
  | 0 => unexpected none
  | fuel + 1 => do
    need "do"
    let c ← list false fuel
    need "done"
    return c

/-- Reads the body of a loop over words, which in the larger shell can stand between braces. -/
def bodyOrBlock : (fuel : Nat) → Reading Command
  | 0 => unexpected none
  | fuel + 1 => do
    if (← keyword?) = some "\x7b" && (← get).dialect = .bash then
      pass
      let c ← list false fuel
      need "\x7d"
      return c
    else body fuel

def loop (untilSuccess : Bool) : (fuel : Nat) → Reading Command
  | 0 => unexpected none
  | fuel + 1 => do
    let test ← list false fuel
    return .loop untilSuccess test (← body fuel)

/-- Reads a loop over words, or one that counts, after its first word. -/
def each : (fuel : Nat) → Reading Command
  | 0 => unexpected none
  | fuel + 1 => do
    let line := (← get).line
    match ← next? with
    | some (.arithmetic source) =>
      match splitCount source with
      | none => unexpected none
      | some (start, test, step) =>
        pass
        if (← operator?) = some ";" then pass
        passNewlines
        return .counted line start test step (← bodyOrBlock fuel)
    | some (.word w) =>
      let name := Scan.literalText w
      if !isName name then
        if (← get).dialect = .posix then
          throw (.badName (← get).nextLine true name ((← get).textAt line))
      pass
      passNewlines
      let values ← (do
        if (← keyword?) = some "in" then
          pass
          return some (← words fuel)
        else return none)
      if (← operator?) = some ";" then pass
      else if values.isSome && (← next?) ≠ some .newline then unexpected none
      passNewlines
      return .each line name values (← bodyOrBlock fuel)
    | kind =>
      let c ← get
      match c.dialect, kind with
      | .posix, _ => throw (.badName c.nextLine true "" (c.textAt line))
      | .bash, _ => unexpected none

def choice : (fuel : Nat) → Reading Command
  | 0 => unexpected none
  | fuel + 1 => do
    let line := (← get).line
    match ← next? with
    | some (.word subject) =>
      pass
      passNewlines
      need "in"
      passNewlines
      return .choice line subject (← arms fuel)
    | _ => unexpected none

def arms : (fuel : Nat) → Reading Command
  | 0 => unexpected none
  | fuel + 1 => do
    if (← keyword?) = some "esac" then
      pass
      return .nothing
    if (← operator?) = some "(" then pass
    let ps ← patterns fuel
    needClosing
    passNewlines
    let c ← (do
      if ← atEnd then return Command.nothing else list false fuel)
    match ← operator? with
    | some ";;" | some ";&" | some ";;&" =>
      let ending := (← operator?).getD ""
      pass
      passNewlines
      return .arm ps ending c (← arms fuel)
    | _ =>
      if (← keyword?) ≠ some "esac" then unexpected (some "\";;\"")
      pass
      return .arm ps ";;" c .nothing

end

/-- Reads the lines of a script, the fault of its tokens being known. -/
def readLines (fault : Option SyntaxFault) : (fuel : Nat) → Cursor → Script
  | 0, _ => ⟨[], fault⟩
  | fuel + 1, cursor =>
    let cursor : Cursor :=
      { cursor with tokens := cursor.tokens.dropWhile fun t => t.kind = .newline }
    if cursor.tokens.isEmpty then ⟨[], fault⟩
    else
      let result : Except SyntaxFault (Command × Cursor) :=
        list true (8 * cursor.tokens.length + 16) cursor
      match result with
      | .error found => ⟨[], some (match found, fault with
          | .ended .., some f => f
          | found, _ => found)⟩
      | .ok (c, rest) =>
        match rest.kind? with
        | none => if fault.isSome then ⟨[], fault⟩ else ⟨[c], none⟩
        | some .newline =>
          let script := readLines fault fuel rest
          { script with lines := c :: script.lines }
        | some kind =>
          ⟨[], some (.unexpected rest.nextLine (nameOf rest.dialect kind) none
            (rest.textAt rest.nextLine))⟩

/-- A script that says something before its last line, or before its fault. -/
def warn (script : Script) (warnings : List (Nat × String)) : Script :=
  let said := warnings.map fun (line, text) => Command.warning line text
  match script.fault, script.lines.getLast? with
  | none, some last =>
    { script with
      lines := script.lines.dropLast ++ [said.foldr (fun w c => .sequence w c) last] }
  | _, _ => { script with lines := script.lines ++ said }

/-- The script that a text stands for, whose first line has some number. The larger shell ends its
last line with a newline. -/
def ofText (d : Dialect) (firstLine : Nat) (text : String) : Script :=
  let scan := Scan.ofText d firstLine text
  let ended := scan.tokens.getLast?.any fun t => t.kind = .newline
  let closing : List Token :=
    if d = .bash && !ended && scan.fault.isNone then [⟨.newline, scan.lastLine⟩] else []
  let lastLine :=
    if d = .bash && !text.endsWith "\n" then scan.lastLine + 1 else scan.lastLine
  let script := readLines scan.fault (scan.tokens.length + 2)
    { dialect := d, tokens := scan.tokens ++ closing, documents := scan.documents
      source := (text.splitOn "\n").toArray, firstLine, lastLine }
  match d with
  | .posix => script
  | .bash => script.warn scan.warnings

/-- Whether a text ends in the middle of a command. -/
def isUnfinished (script : Script) : Bool :=
  match script.fault with
  | some (.unclosed ..) | some (.ended ..) | some (.condition _ _ none _) => true
  | _ => false

end Script

namespace SyntaxFault

def line : SyntaxFault → Nat
  | .unclosed line _ | .unexpected line .. | .ended line _ | .badName line ..
  | .condition line .. => line

/-- The wording of a fault in the small shell. -/
def message : SyntaxFault → String
  | .unclosed _ close =>
    "Syntax error: " ++ (match close with
      | '\x60' => "EOF in backquote substitution"
      | '\x7d' => "Missing \x27\x7d\x27"
      | '(' => "Missing \x27))\x27"
      | ')' => "end of file unexpected (expecting \")\")"
      | _ => "Unterminated quoted string")
  | .unexpected _ what wanted _ => "Syntax error: " ++ what ++ " unexpected" ++ expecting wanted
  | .ended _ wanted => "Syntax error: end of file unexpected" ++ expecting wanted
  | .badName _ isLoop _ _ =>
    "Syntax error: Bad " ++ (if isLoop then "for loop variable" else "function name")
  | .condition .. => "Syntax error: end of file unexpected"
where
  /-- What is said about what was wanted. -/
  expecting (wanted : Option String) : String :=
    (wanted.map fun w => " (expecting " ++ w ++ ")").getD ""

/-- The lines of a message in the larger shell, and the line of the script that each is about. -/
def lines : SyntaxFault → List (Nat × String)
  | .unclosed line close =>
    -- parentheses around commands are looked for up to the end of the text
    [(if close = ')' then line + 1 else line,
      "unexpected EOF while looking for matching \x60"
        ++ String.ofList [if close = '(' then ')' else close] ++ "\x27")]
  | .unexpected line what _ shown =>
    [(line, "syntax error near unexpected token \x60" ++ what ++ "\x27"),
      (line, "\x60" ++ shown ++ "\x27")]
  | .ended line _ => [(line, "syntax error: unexpected end of file")]
  | .badName line _ name _ => [(line, "\x60" ++ name ++ "\x27: not a valid identifier")]
  | .condition line texts near shown =>
    texts ++ match near with
      | some near =>
        [(line, "syntax error near \x60" ++ near ++ "\x27"), (line, "\x60" ++ shown ++ "\x27")]
      | none => [(line, "syntax error: unexpected end of file")]

end SyntaxFault

end RLanguageHost.Shell
