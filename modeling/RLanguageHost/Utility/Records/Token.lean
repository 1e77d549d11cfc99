import RLanguageHost.Utility.Records.Number

/-!
# Tokens of programs over records

A program is cut into tokens. A slash begins an expression that matches text where a division could
not stand.
-/

namespace RLanguageHost.Utility.Records

inductive Token where
  | number (x : Float) (shown : String)
  | text (s : String)
  | regex (source : String)
  /-- A name, and whether a parenthesis follows it directly. -/
  | name (s : String) (isCalled : Bool)
  | keyword (s : String)
  | builtin (s : String)
  | mark (s : String)
  | newline
  | finish
  /-- A closing mark without an opening one. -/
  | extra (s : String)
  /-- Something at which reading ends, with what is said about it. -/
  | bad (message : String)
  deriving Repr, Inhabited

namespace Token

def keywords : List String :=
  ["BEGIN", "END", "break", "continue", "delete", "do", "else", "exit", "for", "function",
    "getline", "if", "in", "next", "nextfile", "print", "printf", "return", "while"]

/-- The functions that there always are, with the fewest and most arguments. -/
def builtins : List (String × Nat × Nat) :=
  [("length", 0, 1), ("index", 2, 2), ("substr", 2, 3), ("sprintf", 1, 255), ("sin", 1, 1),
    ("cos", 1, 1), ("atan2", 2, 2), ("exp", 1, 1), ("log", 1, 1), ("int", 1, 1), ("sqrt", 1, 1),
    ("rand", 0, 0), ("srand", 0, 1), ("close", 1, 1), ("system", 1, 1), ("toupper", 1, 1),
    ("tolower", 1, 1), ("fflush", 0, 1), ("mktime", 1, 2), ("strftime", 0, 3), ("systime", 0, 0),
    ("split", 2, 3), ("match", 2, 2), ("sub", 2, 3), ("gsub", 2, 3)]

/-- The marks, longer ones first. -/
def marks : List String :=
  ["&&", "||", "++", "--", "+=", "-=", "*=", "/=", "%=", "^=", "==", "<=", ">=", "!=", "!~", ">>",
    "\x7b", "\x7d", "(", ")", "[", "]", ";", ",", "+", "-", "*", "/", "%", "^", "!", ">", "<", "|",
    "?", ":", "~", "$", "="]

def shown : Token → String
  | .number _ s => s
  | .text s => "\"" ++ s ++ "\""
  | .regex s => "/" ++ s ++ "/"
  | .name s _ | .keyword s | .builtin s | .mark s | .extra s => s
  | .newline => "end of line"
  | .finish => "end of file"
  | .bad s => s

/-- Whether a slash after a token divides. -/
def endsOperand : Token → Bool
  | .number .. | .text _ | .regex _ | .name .. => true
  | .mark s => s = ")" || s = "]" || s = "++" || s = "--"
  | .keyword s => s = "getline"
  | .builtin s => s = "length"
  | _ => false

end Token

def isOctal (c : Char) : Bool :=
  '0' ≤ c && c ≤ '7'

/-- A text with its backslashes read. One before a character that has no meaning with it stays. -/
def unescaped : (fuel : Nat) → List Char → List Char
  | 0, cs => cs
  | _, [] => []
  | fuel + 1, '\\' :: c :: rest =>
    match [('"', '"'), ('\\', '\\'), ('a', '\x07'), ('b', '\x08'), ('f', '\x0c'),
        ('n', '\n'), ('r', '\r'), ('t', '\t'), ('v', '\x0b')].lookup c with
    | some d => d :: unescaped fuel rest
    | none =>
      if isOctal c then
        let ds := ((c :: rest).take 3).takeWhile isOctal
        let n := ds.foldl (fun n d => n * 8 + (d.toNat - 48)) 0
        Char.ofNat (n % 256) :: unescaped fuel ((c :: rest).drop ds.length)
      else if c = 'x' && rest.head?.any fun d => (hexValue? d).isSome then
        let ds := (rest.take 2).takeWhile fun d => (hexValue? d).isSome
        let n := ds.foldl (fun n d => n * 16 + (hexValue? d).getD 0) 0
        Char.ofNat n :: unescaped fuel (rest.drop ds.length)
      else if c = '\n' then unescaped fuel rest
      else '\\' :: c :: unescaped fuel rest
  | fuel + 1, c :: rest => c :: unescaped fuel rest

/-- The characters of a text up to its closing quote, and what follows it. -/
def quotedPart : List Char → Option (List Char × List Char)
  | [] | '\n' :: _ => none
  | '"' :: rest => some ([], rest)
  | '\\' :: c :: rest => (quotedPart rest).map fun (t, rest) => ('\\' :: c :: t, rest)
  | c :: rest => (quotedPart rest).map fun (t, rest) => (c :: t, rest)

/-- The characters of an expression up to its closing slash, and what follows it. Slashes in
brackets belong to it. -/
def slashedPart (inBrackets : Bool) : List Char → Option (List Char × List Char)
  | [] | '\n' :: _ => none
  | '\\' :: '/' :: rest => (slashedPart inBrackets rest).map fun (t, rest) => ('/' :: t, rest)
  | '\\' :: c :: rest => (slashedPart inBrackets rest).map fun (t, rest) => ('\\' :: c :: t, rest)
  | c :: rest =>
    if c = '/' && !inBrackets then some ([], rest)
    else
      let inside := if c = '[' then true else if c = ']' then false else inBrackets
      (slashedPart inside rest).map fun (t, rest) => (c :: t, rest)

/-- The start of a text that does not end, as a message shows it. -/
def cutText (cs : List Char) : String :=
  String.ofList ((cs.takeWhile (· ≠ '\n')).take 10) ++ " ..."

/-- The next token of a program and what follows it; a blank or a comment is no token. -/
def nextToken (afterOperand : Bool) (line : Nat) (cs : List Char) : Option Token × List Char :=
  match cs with
  | [] => (some .finish, [])
  | '\n' :: rest => (some .newline, rest)
  | '\\' :: '\n' :: rest => (none, rest)
  | '\\' :: '\r' :: '\n' :: rest => (none, rest)
  | '#' :: rest => (none, rest.dropWhile (· ≠ '\n'))
  | '"' :: rest =>
    match quotedPart rest with
    | some (t, rest) => (some (.text (String.ofList (unescaped (t.length + 1) t))), rest)
    | none =>
      (some (.bad ("line " ++ toString line ++ ": runaway string constant " ++ cutText cs)), [])
  | c :: rest =>
    if c = ' ' || c = '\t' || c = '\r' then (none, rest)
    else if c = '/' && !afterOperand then
      match slashedPart false rest with
      | some (t, rest) => (some (.regex (String.ofList t)), rest)
      | none =>
        (some (.bad ("line " ++ toString line ++ ": runaway regular expression " ++
          cutText cs)), [])
    else if c.isDigit || (c = '.' && rest.head?.any Char.isDigit) then
      match decimal? cs with
      | some (x, rest) =>
        (some (.number x (String.ofList (cs.take (cs.length - rest.length)))), rest)
      | none => (none, rest)
    else if c.isAlpha || c = '_' then
      let word := cs.takeWhile fun c => c.isAlphanum || c = '_'
      let rest := cs.drop word.length
      let s := String.ofList word
      let token := if Token.keywords.contains s then Token.keyword s
        else if (Token.builtins.lookup s).isSome then .builtin s
        else .name s (rest.head? = some '(')
      (some token, rest)
    else
      match Token.marks.find? fun m => m.toList.isPrefixOf cs with
      | some m => (some (.mark m), cs.drop m.length)
      | none =>
        (some (.bad (toString line ++ ": unexpected character \x27" ++
          String.ofList [c] ++ "\x27")),
          [])

def tokens : (fuel : Nat) → (line round curly : Nat) → (afterOperand : Bool) → List Char →
    List (Nat × Token)
  | 0, _, _, _, _, _ => []
  | fuel + 1, line, round, curly, afterOperand, cs =>
    match nextToken afterOperand line cs with
    | (some .finish, _) => [(line, .finish)]
    | (some (.bad s), _) => [(line, .bad s)]
    | (none, rest) =>
      let lines := if cs.head? = some '\\' then 1 else 0
      tokens fuel (line + lines) round curly afterOperand rest
    | (some .newline, rest) =>
      (line, .newline) :: tokens fuel (line + 1) round curly false rest
    | (some (.mark ")"), rest) =>
      if round = 0 then (line, .extra ")") :: tokens fuel line round curly afterOperand rest
      else (line, .mark ")") :: tokens fuel line (round - 1) curly true rest
    | (some (.mark "\x7d"), rest) =>
      if curly = 0 then (line, .extra "\x7d") :: tokens fuel line round curly false rest
      else (line, .mark "\x7d") :: tokens fuel line round (curly - 1) false rest
    | (some t, rest) =>
      let (round, curly) :=
        match t with
        | .mark "(" => (round + 1, curly)
        | .mark "\x7b" => (round, curly + 1)
        | _ => (round, curly)
      (line, t) :: tokens fuel line round curly t.endsOperand rest

/-- The tokens of the text of a program, which ends in a newline. -/
def tokensOf (source : String) : List (Nat × Token) :=
  let cs := source.toList ++ ['\n']
  tokens (cs.length + 2) 1 0 0 false cs

end RLanguageHost.Utility.Records
