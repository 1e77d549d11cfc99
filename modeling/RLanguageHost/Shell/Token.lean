import RLanguageHost.Shell.Word

/-!
# Shell tokens

A script is a row of words and operators, each on a line. Documents that stand on the lines after
their operator are read ahead and numbered; the token after the operator says which one is meant.
The larger shell has two kinds of commands with words of their own: numbers and conditions. They are
one token each.

Where a script cannot be read on, the tokens before that place are kept: a shell carries out what it
has read so far.
-/

namespace RLanguageHost.Shell

/-- Why a script cannot be read. -/
inductive SyntaxFault where
  /-- Something is open at the end: the line, and the character that would close it. -/
  | unclosed (line : Nat) (close : Char)
  /-- A token that cannot come here, and what was wanted in its place. -/
  | unexpected (line : Nat) (what : String) (wanted : Option String) (shown : String)
  /-- The script ends too early. -/
  | ended (line : Nat) (wanted : Option String)
  | badName (line : Nat) (isLoop : Bool) (name shown : String)
  /-- A condition between brackets is none: what is said about it, with lines, and the text near the
  fault, unless this is the end of the script. -/
  | condition (line : Nat) (texts : List (Nat × String)) (near : Option String) (shown : String)
  deriving Repr, DecidableEq, Inhabited

/-- An item of a condition between brackets; the closing brackets and newlines are operators. -/
inductive TestItem where
  | word (word : Word)
  | operator (text : String)
  deriving Repr, DecidableEq, Inhabited

/-- An item of a condition on its line, with the text that a message about it shows. -/
structure TestToken where
  item : TestItem
  near : String
  line : Nat
  deriving Repr, DecidableEq, Inhabited

inductive TokenKind where
  | word (word : Word)
  /-- The number of a stream, right before a redirection. -/
  | stream (n : Nat)
  | operator (text : String)
  | newline
  /-- The document that an operator before asks for. -/
  | document (n : Nat)
  /-- A number between two pairs of parentheses. -/
  | arithmetic (source : String)
  /-- A condition between two pairs of brackets. -/
  | test (tokens : List TestToken)
  deriving Repr, DecidableEq, Inhabited

structure Token where
  kind : TokenKind
  line : Nat
  deriving Repr, DecidableEq, Inhabited

structure Scan where
  tokens : List Token
  documents : List Word
  /-- Where the script cannot be read on. -/
  fault : Option SyntaxFault
  /-- The number of the last line. -/
  lastLine : Nat
  /-- What is to be said about documents that the end of the script ends, with lines. -/
  warnings : List (Nat × String) := []
  deriving Repr, DecidableEq, Inhabited

namespace Scan

/-- The operators, longer ones first. -/
def operators (d : Dialect) : List String :=
  d.choose [] [";;&", "&>>", "<<<"] ++ d.choose [] ["&>", "|&", ";&"]
    ++ ["<<-", "&&", "||", ";;", "<<", ">>", "<&", ">&", "<>", ">|", "<", ">", ";", "&", "|", "(",
      ")"]

def operator? (d : Dialect) (cs : List Char) : Option (String × List Char) :=
  (operators d).findSome? fun op =>
    if op.toList.isPrefixOf cs then some (op, cs.drop op.length) else none

def takesDocument (op : String) : Bool :=
  op = "<<" || op = "<<-"

/-- A document that an operator has asked for. -/
structure Request where
  ending : List Char
  /-- Whether tabs at the start of lines are dropped. -/
  stripped : Bool
  /-- Whether nothing is put into the document. -/
  literal : Bool
  deriving Repr, Inhabited

def literalText (w : Word) : String :=
  w.foldl (fun acc part => match part with | .text s _ => acc ++ s | _ => acc) ""

def hasQuotes (w : Word) : Bool :=
  w.any fun | .text _ quoted => quoted | _ => false

def Request.ofWord (op : String) (w : Word) : Request where
  ending := (literalText w).toList
  stripped := op = "<<-"
  literal := hasQuotes w

/-- The rest of a line, and what follows its newline. -/
def splitLine (cs : List Char) : List Char × List Char :=
  (cs.takeWhile (· ≠ '\n'), (cs.dropWhile (· ≠ '\n')).drop 1)

/-- A document, what follows it, and whether its last line was there. -/
structure Document where
  body : List Char
  rest : List Char
  isEnded : Bool

def readDocument (d : Dialect) (request : Request) : (fuel : Nat) → List Char → Document
  | 0, cs => ⟨[], cs, true⟩
  | _, [] => ⟨[], [], false⟩
  | fuel + 1, cs =>
    let (line, rest) := splitLine cs
    let ended := cs.contains '\n' || d = .bash
    let line := if request.stripped then line.dropWhile (· = '\t') else line
    if line = request.ending then ⟨[], rest, true⟩
    else
      let more := readDocument d request fuel rest
      { more with body := line ++ (if ended then ['\n'] else []) ++ more.body }

/-- What is said about a document that the end of the script ends. -/
def unendedText (start : Nat) (request : Request) : String :=
  "warning: here-document at line " ++ toString start ++ " delimited by end-of-file (wanted \x60"
    ++ String.ofList request.ending ++ "\x27)"

/-- The words that documents stand for, what follows the documents, and what is to be said about
them. -/
def readDocuments (d : Dialect) (line : Nat) : List Request → List Char →
    List Word × List Char × List (Nat × String)
  | [], cs => ([], cs, [])
  | request :: requests, cs =>
    let document := readDocument d request (cs.length + 1) cs
    let text := String.ofList document.body
    let word := if request.literal then [.text text true] else Word.ofText d .document text
    let passed := (cs.take (cs.length - document.rest.length)).count '\n'
    let endLine := line + passed + if cs.isEmpty || cs.getLast? = some '\n' then 0 else 1
    let (more, rest, warnings) := readDocuments d endLine requests document.rest
    (word :: more, rest,
      (if document.isEnded then [] else [(endLine, unendedText line request)]) ++ warnings)

/-- How far a script has been read. -/
structure Progress where
  /-- The tokens so far, the last one first. -/
  tokens : List Token := []
  documents : List Word := []
  requests : List Request := []
  line : Nat := 1
  /-- The operator before, if a document is to follow it. -/
  asking : Option String := none
  warnings : List (Nat × String) := []

def Progress.add (p : Progress) (kind : TokenKind) : Progress :=
  { p with tokens := ⟨kind, p.line⟩ :: p.tokens }

/-- Counts the lines between two places of a script. -/
def Progress.advance (p : Progress) (cs rest : List Char) : Progress :=
  { p with line := p.line + (cs.take (cs.length - rest.length)).count '\n' }

/-- Adds a word. It may be the end of a document, or the number of a stream. -/
def Progress.addWord (p : Progress) (w : Word) (rest : List Char) : Progress :=
  match p.asking with
  | some op =>
    { p.add (.document (p.documents.length + p.requests.length)) with
      requests := p.requests ++ [.ofWord op w], asking := none }
  | none =>
    match w.bare?, rest.head? with
    | some s, some c =>
      if (c = '<' || c = '>') && s.toList.all Char.isDigit then p.add (.stream (s.toNat?.getD 0))
      else p.add (.word w)
    | _, _ => p.add (.word w)

/-- The words after which a command can start. -/
def openers : List String :=
  ["if", "then", "elif", "else", "while", "until", "do", "\x7b", "!", "time"]

/-- Whether a command can start after the tokens so far. -/
def Progress.atCommand (p : Progress) : Bool :=
  match p.tokens with
  | [] => true
  | t :: _ =>
    match t.kind with
    | .newline => true
    | .operator op => [";", "&", "&&", "||", "|", "|&", "(", ";;", ")"].contains op
    | .word w => w.bare?.any openers.contains
    | _ => false

/-- Whether the tokens so far end in the first word of a loop. -/
def Progress.afterFor (p : Progress) : Bool :=
  match p.tokens with
  | t :: _ => t.kind = .word [.text "for" false]
  | [] => false

/-- The start of an assignment of an array at the start of a text, and what follows its opening
parenthesis. -/
def arrayStart? (d : Dialect) (cs : List Char) : Option (String × List Char) :=
  let name := cs.takeWhile isNameChar
  let afterName := cs.drop name.length
  let (op, rest) :=
    match afterName with
    | '+' :: '=' :: rest => ("+=", rest)
    | '=' :: rest => ("=", rest)
    | _ => ("", [])
  match rest with
  | '(' :: rest =>
    if d = .bash && isName (String.ofList name) then some (String.ofList name ++ op, rest)
    else none
  | _ => none

/-- The start of an assignment to an element of an array at the start of a text, and what follows
its equals sign. -/
def elementStart? (d : Dialect) (cs : List Char) : Option (Part × List Char) :=
  let name := cs.takeWhile isNameChar
  match d, isName (String.ofList name), leadingSubscript d (cs.drop name.length) with
  | .bash, true, (some subscript, '=' :: rest) =>
    some (.element (String.ofList name) subscript false, rest)
  | .bash, true, (some subscript, '+' :: '=' :: rest) =>
    some (.element (String.ofList name) subscript true, rest)
  | _, _, _ => none

def wordAt (d : Dialect) (cs : List Char) : Except Char (Word × List Char) :=
  match elementStart? d cs with
  | some (target, rest) => (Word.read d .bare rest).map fun (w, rest) => (target :: w, rest)
  | none => Word.read d .bare cs

/-- The operators of conditions between brackets. -/
def testOperators : List String :=
  ["&&", "||", "(", ")", "<", ">"]

/-- What a message shows of a text that ends with a token and has some character after it. -/
def nearText (token : List Char) (next : Option Char) : String :=
  let isSpace (c : Char) : Bool := c = ' ' || c = '\t' || c = '\n'
  let isMark (c : Char) : Bool := c = ';' || c = '|' || c = '&'
  let all := token ++ next.toList.filter fun c => !isSpace c
  match all.reverse with
  | [] => ""
  | c :: before =>
    if isMark c then String.ofList [c]
    else
      let back := (c :: before).takeWhile fun c => !isSpace c && !isMark c
      let mark := ((c :: before).drop back.length).head?.filter isMark
      String.ofList (mark.toList ++ back.reverse)

/-- Reads the items of a condition up to its closing brackets, or up to something that cannot be in
a condition. At the end of a script a newline is added. -/
def testTokens : (fuel : Nat) → (afterMatch : Bool) → (line : Nat) → (last : String) → List Char →
    Except Char (List TestToken × List Char)
  | 0, _, _, _, cs => .ok ([], cs)
  | _, _, line, last, [] =>
    .ok (if last = "newline" then [] else [⟨.operator "newline", last, line⟩], [])
  | fuel + 1, afterMatch, line, last, c :: rest =>
    if c = ' ' || c = '\t' then testTokens fuel afterMatch line last rest
    else if c = '\n' then do
      let (more, rest) ←
        testTokens fuel afterMatch (line + 1) (if rest.isEmpty then "newline" else last) rest
      return (⟨.operator "newline", last, line⟩ :: more, rest)
    else
      let word : Except Char (List TestToken × List Char) := do
        let (w, rest') ← Word.read .bash (if afterMatch then .regex else .bare) (c :: rest)
        let token := (c :: rest).take (rest.length + 1 - rest'.length)
        let near := nearText token rest'.head?
        let line := line + token.count '\n'
        if w.bare? = some "]]" then return ([⟨.operator "]]", near, line⟩], rest')
        else if token.isEmpty then
          return ([⟨.operator (String.ofList [c]), String.ofList [c], line⟩], rest)
        else
          let (more, rest) ← testTokens fuel (w.bare? = some "=~") line near rest'
          return (⟨.word w, near, line⟩ :: more, rest)
      if afterMatch then word
      else
        match (operators .bash).find? fun op => op.toList.isPrefixOf (c :: rest) with
        | some op =>
          let rest := (c :: rest).drop op.length
          let near := nearText op.toList rest.head?
          let here : TestToken := ⟨.operator op, near, line⟩
          if testOperators.contains op then do
            let (more, rest) ← testTokens fuel false line near rest
            return (here :: more, rest)
          else .ok ([here], rest)
        | none => word

def Progress.finish (p : Progress) (fault : Option SyntaxFault) : Scan where
  tokens := p.tokens.reverse
  documents := p.documents
  fault := fault
  lastLine := p.line
  warnings := p.warnings

/-- The scan that ends because something is open at the end: the small shell names the last line,
the larger one the line on which it was opened. -/
def Progress.leaveOpen (d : Dialect) (p : Progress) (cs : List Char) (close : Char) : Scan :=
  p.finish (some (.unclosed (d.choose (p.line + cs.count '\n') p.line) close))

/-- What is read of a number between two pairs of parentheses, if one starts here. -/
def arithmeticAt? (d : Dialect) (p : Progress) (cs : List Char) :
    Except Char (Option (String × List Char)) :=
  match cs with
  | '(' :: '(' :: rest =>
    if d = .bash && (p.atCommand || p.afterFor) then do
      let (source, rest) ← (balanced [{ close := ')' }, { close := ')' }] [] .nothing rest).mapError
        fun _ => '('
      return if source.getLast? = some ')' then some (String.ofList source.dropLast, rest)
        else none
    else .ok none
  | _ => .ok none

/-- Whether a condition between brackets starts here. -/
def startsTest (d : Dialect) (p : Progress) (cs : List Char) : Bool :=
  d = .bash && p.atCommand && "[[".toList.isPrefixOf cs
    && ((cs.drop 2).head?).any fun c => c = ' ' || c = '\t' || c = '\n'

def readTokens (d : Dialect) : (fuel : Nat) → Progress → List Char → Scan
  | 0, p, _ => p.finish none
  | _, p, [] =>
    let (documents, _, warnings) := readDocuments d p.line p.requests []
    { p with documents := p.documents ++ documents, warnings := p.warnings ++ warnings }.finish none
  | fuel + 1, p, c :: rest =>
    if c = '\n' then
      let p := p.add .newline
      let (documents, rest', warnings) := readDocuments d p.line p.requests rest
      let p := { p with
        documents := p.documents ++ documents, requests := [], warnings := p.warnings ++ warnings }
      readTokens d fuel (p.advance (c :: rest) rest') rest'
    else if c = ' ' || c = '\t' then readTokens d fuel p rest
    else if c = '\\' && rest.head? = some '\n' then
      readTokens d fuel { p with line := p.line + 1 } (rest.drop 1)
    else if c = '#' then readTokens d fuel p (rest.dropWhile (· ≠ '\n'))
    else if startsTest d p (c :: rest) then
      match testTokens (rest.length + 1) false p.line "[[" (rest.drop 1) with
      | .ok (tokens, rest') =>
        readTokens d fuel ((p.add (.test tokens)).advance (c :: rest) rest') rest'
      | .error close => p.leaveOpen d (c :: rest) close
    else
      match arithmeticAt? d p (c :: rest) with
      | .error close => p.leaveOpen d (c :: rest) close
      | .ok (some (source, rest')) =>
        readTokens d fuel ((p.add (.arithmetic source)).advance (c :: rest) rest') rest'
      | .ok none =>
        match arrayStart? d (c :: rest) with
        | some (start, inner) =>
          match commandsUpTo inner with
          | .ok (source, rest') =>
            match arrayEntries d (source.length + 1) source with
            | .ok entries =>
              let w : Word := .text start false :: .array :: entries
              readTokens d fuel ((p.advance (c :: rest) rest').add (.word w)) rest'
            | .error close => p.leaveOpen d (c :: rest) close
          | .error close => p.leaveOpen d (c :: rest) close
        | none =>
          let isProcess := d = .bash && (c = '<' || c = '>') && rest.head? = some '('
          match if isProcess then none else operator? d (c :: rest) with
          | some (op, rest) =>
            let p := p.add (.operator op)
            readTokens d fuel (if takesDocument op then { p with asking := some op } else p) rest
          | none =>
            match wordAt d (c :: rest) with
            | .error close => p.leaveOpen d (c :: rest) close
            | .ok (w, rest') =>
              readTokens d fuel ((p.advance (c :: rest) rest').addWord w rest') rest'

/-- The tokens of a script whose first line has some number. -/
def ofText (d : Dialect) (firstLine : Nat) (script : String) : Scan :=
  let cs := script.toList
  readTokens d (cs.length + 1) { line := firstLine } cs

end Scan

end RLanguageHost.Shell
