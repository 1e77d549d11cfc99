import RLanguageHost.Text.Regex.Reader
import RLanguageHost.Utility.Lines

/-!
# Search for lines

`grep`: the lines of inputs that match one of some patterns, or those that do not.
-/

namespace RLanguageHost.Utility.Search

/-- What is looked for in lines. -/
structure Pattern where
  expressions : List Regex
  /-- Whether a match has to be a whole line. -/
  wholeLine : Bool := false
  /-- Whether a match has to be whole words. -/
  wholeWords : Bool := false
  deriving Repr, Inhabited

def grammar : Grammar where
  flags := "EFGPivcoqsnHhlLxwrRabUzy="
  valued := "efmABC"
  long := [("extended-regexp", 'E'), ("fixed-strings", 'F'), ("basic-regexp", 'G'),
    ("perl-regexp", 'P'), ("ignore-case", 'i'), ("invert-match", 'v'), ("count", 'c'),
    ("only-matching", 'o'), ("quiet", 'q'), ("silent", 'q'), ("no-messages", 's'),
    ("line-number", 'n'), ("with-filename", 'H'), ("no-filename", 'h'),
    ("files-with-matches", 'l'), ("files-without-match", 'L'), ("line-regexp", 'x'),
    ("word-regexp", 'w'), ("recursive", 'r'), ("text", 'a'), ("byte-offset", 'b'),
    ("regexp", 'e'), ("file", 'f'), ("max-count", 'm'), ("after-context", 'A'),
    ("before-context", 'B'), ("context", 'C'), ("color", 'U'), ("colour", 'U'),
    ("line-buffered", '\x01')]

/-- Arguments in which numbers are options for context. -/
def withContext (arguments : List String) : List String :=
  arguments.map fun a =>
    match a.toList with
    | '-' :: c :: rest => if (c :: rest).all Char.isDigit then
        "-C" ++ String.ofList (c :: rest) else a
    | _ => a

def optionsOf (c : Call) : Except String Options :=
  let start : Options :=
    match c.name with
    | "egrep" => { given := [('E', "")] }
    | "fgrep" => { given := [('F', "")] }
    | _ => {}
  Options.read grammar start (withContext c.arguments)

def filesOf (o : Options) : List String :=
  let files := if o.has 'e' || o.has 'f' then o.operands else o.operands.drop 1
  if files.isEmpty then ["-"] else files

def texts (o : Options) : List String :=
  let all := if o.has 'e' then o.values 'e' else o.operands.take 1
  all.flatMap fun t => t.splitOn "\n"

/-- The expression that matches just a text. -/
def literal (spelling : Regex.Spelling) (text : String) : Regex :=
  text.toList.foldl (fun r c => .sequence r (Regex.single spelling (Regex.byte c))) .empty

/-- The patterns that options ask for, or the text that is none. -/
def patternOf (o : Options) : Except String Pattern := do
  let mode := (o.given.reverse.find? fun g => "EFGP".toList.contains g.1).map (·.1)
  let spelling : Regex.Spelling :=
    { extended := mode = some 'E' || mode = some 'P', digits := mode = some 'P'
      ignoresCase := o.has 'i' || o.has 'y' }
  let expressions ← (texts o).mapM fun t =>
    if mode = some 'F' then pure (literal spelling t)
    else
      match Regex.ofText? spelling t with
      | some r => pure r
      | none => throw t
  return { expressions, wholeLine := o.has 'x', wholeWords := o.has 'w' }

def patternFault (text : String) : String :=
  let cs := text.toList
  if cs.contains '[' && !cs.contains ']' then "Invalid regular expression"
  else if cs.contains '(' && !cs.contains ')' then "Unmatched ( or \\("
  else if cs.contains ')' && !cs.contains '(' then "Unmatched ) or \\)"
  else if cs.contains '\x7b' && !cs.contains '\x7d' then "Unmatched \\\x7b"
  else if cs.contains '-' then "Invalid range end"
  else "Invalid preceding regular expression"

/-- Whether a match stands between words. -/
def isWord (a b : Regex.Progress) : Bool :=
  !a.before.head?.any Regex.isWordByte && !b.rest.head?.any Regex.isWordByte

/-- The first match of an expression that counts, from some place on. -/
def nextOf (p : Pattern) (r : Regex) :
    (fuel : Nat) → Regex.Progress → Option (Regex.Progress × Regex.Progress)
  | 0, _ => none
  | fuel + 1, at_ =>
    match (if p.wholeLine then Regex.sequence .lineStart (.sequence r .lineEnd) else r).find?
        (at_.rest.length + 1) at_ with
    | none => none
    | some (a, b) =>
      if !p.wholeWords || isWord a b then some (a, b)
      else if a.rest.isEmpty then none
      else nextOf p r fuel a.pass

/-- The first match of a pattern from some place on, the longest of those that start first. -/
def Pattern.next (p : Pattern) (at_ : Regex.Progress) : Option (Regex.Progress × Regex.Progress) :=
  (p.expressions.filterMap fun r => nextOf p r (at_.rest.length + 1) at_).foldl (fun best x =>
    match best with
    | none => some x
    | some y =>
      if x.1.rest.length > y.1.rest.length
          || (x.1.rest.length = y.1.rest.length && x.2.rest.length < y.2.rest.length) then some x
      else some y) none

/-- The matches in a line that are not empty. -/
def Pattern.matches (p : Pattern) : (fuel : Nat) → Regex.Progress → List Bytes
  | 0, _ => []
  | fuel + 1, at_ =>
    match p.next at_ with
    | none => []
    | some (a, b) =>
      let text := b.since a
      if text.isEmpty then if b.rest.isEmpty then [] else Pattern.matches p fuel b.pass
      else text :: Pattern.matches p fuel b

/-- How found lines are shown. -/
structure Display where
  name : Option String := none
  numbers : Bool := false
  onlyMatches : Bool := false
  before : Nat := 0
  after : Nat := 0
  deriving Repr, Inhabited

/-- A line that is shown, after a mark that says whether it was found. -/
def Display.line (d : Display) (mark : String) (n : Nat) (text : Bytes) : Bytes :=
  Shell.rawOf ((d.name.map (· ++ mark)).getD "" ++ (if d.numbers then toString n ++ mark else ""))
    ++ text ++ [10]

def Display.show (d : Display) (p : Pattern) (inverted : Bool) (lines : List (Bytes × Nat × Bool)) :
    List Bytes :=
  let found := (lines.filter (·.2.2)).map (·.2.1)
  let isNear (n : Nat) : Bool := found.any fun k => n ≤ k + d.after && k ≤ n + d.before
  let hasContext := d.before ≠ 0 || d.after ≠ 0
  let chosen := lines.filter fun l => l.2.2 || (hasContext && isNear l.2.1)
  (chosen.foldl (fun ((out, last) : List Bytes × Option Nat) (text, n, isFound) =>
    let gap := hasContext && last.any fun k => k + 1 < n
    let shown :=
      if d.onlyMatches then
        if isFound && !inverted then
          (p.matches (text.length + 2) { rest := text }).map (d.line ":" n)
        else []
      else [d.line (if isFound then ":" else "-") n text]
    (out ++ (if gap then [Shell.rawOf "--\n"] else []) ++ shown, some n)) ([], none)).1

/-- The lines of an input, each with its number and whether it is found, up to a number of found
ones. -/
def marked (p : Pattern) (inverted : Bool) (most : Nat) (input : Bytes) :
    List (Bytes × Nat × Bool) :=
  ((linesOf input).zipIdx 1).foldl (fun ((out, n) : List (Bytes × Nat × Bool) × Nat) (text, k) =>
    let found := n < most && ((p.next { rest := text }).isSome != inverted)
    (out ++ [(text, k, found)], if found then n + 1 else n)) ([], 0) |>.1

/-- What `grep` answers: the status says whether something was found, unless there was a fault. -/
def run (c : Call) : Answer :=
  match optionsOf c with
  | .error text =>
    { pieces := [(2, Shell.rawOf (c.name ++ ": " ++ text
        ++ "\nUsage: grep [OPTION]... PATTERNS [FILE]...\n"
        ++ "Try \x27grep --help\x27 for more information.\n"))], status := 2 }
  | .ok o =>
    if (texts o).isEmpty && !o.has 'f' && !o.has 'e' then
      { pieces := [(2, Shell.rawOf ("Usage: grep [OPTION]... PATTERNS [FILE]...\n"
          ++ "Try \x27grep --help\x27 for more information.\n"))], status := 2 }
    else
      match patternOf o with
      | .error text => .fault "grep" (patternFault text) 2
      | .ok pattern =>
        let most := ((o.value? 'm').bind String.toNat?).getD 1000000000
        let inverted := o.has 'v'
        let context (l : Char) : Nat := (((o.value? l).or (o.value? 'C')).bind String.toNat?).getD 0
        let named := (1 < c.inputs.length || o.has 'H' || o.has 'r') && !o.has 'h'
        let one (i : Input) : Answer × Bool :=
          match i.content with
          | .error e =>
            (if o.has 's' then .ofStatus 2
              else .fault "grep" (i.name ++ ": " ++ describe e) 2, false)
          | .ok bs =>
            let name := if i.name = "-" then "(standard input)" else i.name
            let lines := marked pattern inverted most bs
            let n := (lines.filter (·.2.2)).length
            let display : Display :=
              { name := if named then some name else none, numbers := o.has 'n'
                onlyMatches := o.has 'o', before := context 'B', after := context 'A' }
            let out : Bytes :=
              if o.has 'q' then []
              else if o.has 'l' then if n ≠ 0 then Shell.rawOf (name ++ "\n") else []
              else if o.has 'L' then if n = 0 then Shell.rawOf (name ++ "\n") else []
              else if o.has 'c' then
                Shell.rawOf ((if named then name ++ ":" else "") ++ toString n ++ "\n")
              else (display.show pattern inverted lines).flatten
            (.ofBytes out, n ≠ 0)
        let results := c.inputs.map one
        let answer := (results.map (·.1)).foldl Answer.append {}
        let found := results.any (·.2)
        let status :=
          if found && (answer.status = 0 || o.has 'q') then 0
          else if answer.status ≠ 0 then 2
          else 1
        let enough := match c.inputs with
          | [i] => i.content.toOption.any fun bs =>
            let lines := marked pattern inverted most bs
            let n := (lines.filter (·.2.2)).length
            n ≠ 0 && (most ≤ n || o.has 'q' || o.has 'l')
          | _ => false
        { answer with status, isDecided := enough }

/-- How a call goes through its input. -/
def pace? (c : Call) : Option Pace :=
  match optionsOf c with
  | .error _ => none
  | .ok o =>
    if o.has 'c' || o.has 'L' then none
    else
      some { lineByLine := o.has '\x01' || c.isUnbuffered
             mayStop := o.has 'm' || o.has 'q' || o.has 'l' }

end RLanguageHost.Utility.Search
