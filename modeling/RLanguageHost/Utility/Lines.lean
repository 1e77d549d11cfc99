import RLanguageHost.Utility.Basic

/-!
# Lines of inputs

Utilities that take inputs line by line: the first and the last lines, lines backwards, numbered,
folded, counted, and lines of several inputs side by side.
-/

namespace RLanguageHost.Utility.Lines

/-- The lines of a text with their newlines; the last one may have none. -/
def withEnds (input : Bytes) : List Bytes :=
  let parts := FilePath.splitOn 10 input
  let whole := parts.dropLast.map (· ++ [10])
  match parts.getLast? with
  | some [] | none => whole
  | some last => whole ++ [last]

/-- How much of an input is copied. -/
structure Portion where
  lines : Bool := true
  count : Nat := 10
  /-- Whether the count is of what is left out, or where the copy begins. -/
  inverse : Bool := false
  deriving Repr, Inhabited

/-- The number that a text stands for, with a suffix for units. -/
def countOf? (text : String) : Option Nat :=
  let digits := text.toList.takeWhile Char.isDigit
  let factor :=
    match String.ofList (text.toList.drop digits.length) with
    | "" => some 1
    | "b" => some 512
    | "k" | "K" | "KiB" => some 1024
    | "kB" | "KB" => some 1000
    | "m" | "M" | "MiB" => some 1048576
    | _ => none
  if digits.isEmpty then none else factor.map (Shell.numberIn 10 digits * ·)

/-- The portion that an option's value asks for; a sign inverts it. -/
def portionOf? (lines : Bool) (sign : Char) (value : String) : Option Portion :=
  match value.toList with
  | c :: rest =>
    if c = sign then
      (countOf? (String.ofList rest)).map fun count => { lines, count, inverse := true }
    else if c = '-' || c = '+' then
      (countOf? (String.ofList rest)).map fun count => { lines, count }
    else (countOf? value).map fun count => { lines, count }
  | [] => none

def front (p : Portion) (input : Bytes) : Bytes :=
  if p.lines then
    let all := withEnds input
    (all.take (if p.inverse then all.length - p.count else p.count)).flatten
  else input.take (if p.inverse then input.length - p.count else p.count)

def back (p : Portion) (input : Bytes) : Bytes :=
  if p.lines then
    let all := withEnds input
    (all.drop (if p.inverse then p.count - 1 else all.length - p.count)).flatten
  else input.drop (if p.inverse then p.count - 1 else input.length - p.count)

/-- The options of `head` and `tail`, in which a number can be an option itself. -/
def endOptions (arguments : List String) : List String :=
  match arguments with
  | a :: rest =>
    match a.toList with
    | '-' :: c :: more =>
      if c.isDigit then
        let digits := (c :: more).takeWhile Char.isDigit
        let unit := (c :: more).drop digits.length
        (if unit = ['c'] then "-c" else "-n") :: String.ofList digits :: rest
      else arguments
    | _ => arguments
  | [] => []

/-- The options of `head` and `tail`. -/
def endGrammar : Grammar where
  flags := "qvfF"
  valued := "nc"
  long := [("lines", 'n'), ("bytes", 'c'), ("quiet", 'q'), ("silent", 'q'), ("verbose", 'v'),
    ("follow", 'f')]

/-- The portion that options ask for, or the value that is none. -/
def portionOf (sign : Char) (o : Options) : Except String Portion :=
  match (o.given.filter fun g => g.1 = 'n' || g.1 = 'c').getLast? with
  | none => .ok {}
  | some (c, value) =>
    match portionOf? (c = 'n') sign value with
    | some p => .ok p
    | none =>
      .error ("invalid number of " ++ (if c = 'n' then "lines" else "bytes") ++ ": \x27" ++ value
        ++ "\x27")

/-- What `head` and `tail` answer: the portions of inputs, under headings if there are several. -/
def portions (c : Call) (sign : Char) (cut : Portion → Bytes → Bytes) : Answer :=
  { c with arguments := endOptions c.arguments }.withOptions endGrammar 1 fun o =>
    match portionOf sign o with
    | .error text => .fault c.name text 1
    | .ok p =>
      let headed := o.has 'v' || (1 < c.inputs.length && !o.has 'q')
      let one (isFirst : Bool) (i : Input) : Answer :=
        match i.content with
        | .error e =>
          .fault c.name ("cannot open \x27" ++ i.name ++ "\x27 for reading: " ++ describe e) 1
        | .ok bs =>
          let name := if i.name = "-" then "standard input" else i.name
          let heading := if headed then
              (if isFirst then "" else "\n") ++ "==> " ++ name ++ " <==\n"
            else ""
          .ofBytes (Shell.rawOf heading ++ cut p bs)
      (c.inputs.zipIdx).foldl (fun a (i, n) => a.append (one (n = 0) i)) {}

/-- What `tac` answers: the lines backwards. -/
def backwards (c : Call) : Answer :=
  c.inputs.foldl (fun a i =>
    match i.content with
    | .ok bs => a.append (.ofBytes (withEnds bs).reverse.flatten)
    | .error e =>
      a.append (.fault "tac" ("failed to open \x27" ++ i.name ++ "\x27 for reading: "
        ++ describe e) 1)) {}

/-- What `rev` answers: the characters of each line backwards. -/
def turned (c : Call) : Answer :=
  c.inputs.foldl (fun a i =>
    match i.content with
    | .ok bs =>
      let turn (line : Bytes) : Bytes :=
        if line.getLast? = some 10 then line.dropLast.reverse ++ [10] else line.reverse
      a.append (.ofBytes ((withEnds bs).flatMap turn))
    | .error e => a.append (.fault "rev" ("cannot open " ++ i.name ++ ": " ++ describe e) 1)) {}

/-- Lines with numbers in front of them; those that do not count get blanks. -/
def numbered (counts : Bytes → Bool) (width : Nat) (separator : String) (first stride : Nat)
    (gap : String) (lines : List Bytes) : Bytes :=
  (lines.foldl (fun ((out, n) : List Bytes × Nat) line =>
    if counts line then
      ((Shell.rawOf (padded width n ++ separator) ++ line) :: out, n + stride)
    else ((Shell.rawOf gap ++ line) :: out, n)) ([], first)).1.reverse.flatten

/-- What `nl` answers. -/
def numberLines (c : Call) : Answer :=
  c.withOptions { flags := "p", valued := "bwsvi" } 1 fun o =>
    let (input, faults) := c.allInput 1
    let width := ((o.value? 'w').bind String.toNat?).getD 6
    let separator := (o.value? 's').getD "\t"
    let counts (line : Bytes) : Bool :=
      match o.value? 'b' with
      | some "a" => true
      | some "n" => false
      | _ => line ≠ [10] && line ≠ []
    let gap := String.ofList (List.replicate (width + separator.length) ' ')
    faults.append (.ofBytes (numbered counts width separator
      (((o.value? 'v').bind String.toNat?).getD 1) (((o.value? 'i').bind String.toNat?).getD 1)
      gap (withEnds input)))

/-- What `cat` with options answers. -/
def shown (c : Call) : Answer :=
  let grammar : Grammar :=
    { flags := "AbeEnstTuv"
      long := [("show-all", 'A'), ("number", 'n'), ("number-nonblank", 'b'), ("show-ends", 'E'),
        ("squeeze-blank", 's'), ("show-tabs", 'T'), ("show-nonprinting", 'v')] }
  c.withOptions grammar 1 fun o =>
    let (input, faults) := c.allInput 1
    let lines := withEnds input
    let lines := if o.has 's' then squeezed false lines else lines
    let ends := o.has 'E' || o.has 'A' || o.has 'e'
    let tabs := o.has 'T' || o.has 'A' || o.has 't'
    let controls := o.has 'v' || o.has 'A' || o.has 'e' || o.has 't'
    let visible (b : UInt8) : Bytes :=
      if b = 10 then if ends then [36, 10] else [10]
      else if b = 9 then if tabs then [94, 73] else [9]
      else if controls then
        let low (b : UInt8) : Bytes :=
          if b < 32 then [94, b + 64] else if b = 127 then [94, 63] else [b]
        if 128 ≤ b then [77, 45] ++ low (b - 128) else low b
      else [b]
    let counts (line : Bytes) : Bool := o.has 'b' → line ≠ [10]
    let out :=
      if o.has 'n' || o.has 'b' then
        numbered counts 6 "\t" 1 1 "" (lines.map (·.flatMap visible))
      else (lines.map (·.flatMap visible)).flatten
    faults.append (.ofBytes out)
where
  /-- Lines without the empty ones that repeat an empty one. -/
  squeezed : Bool → List Bytes → List Bytes
    | _, [] => []
    | before, line :: rest =>
      if before && line = [10] then squeezed true rest
      else line :: squeezed (line = [10]) rest

/-- What `paste` answers: lines of inputs side by side, or one after the other. -/
def sideBySide (c : Call) : Answer :=
  c.withOptions { flags := "s", valued := "d", long := [("serial", 's'), ("delimiters", 'd')] } 1
    fun o =>
      let marks := marksOf ((o.value? 'd').getD "\t").toList
      let mark (n : Nat) : Bytes :=
        if marks.isEmpty then [] else (marks[n % marks.length]?).getD []
      match c.inputs.find? fun i => i.content.toOption.isNone with
      | some i =>
        match i.content with
        | .error e => .fault "paste" (i.name ++ ": " ++ describe e) 1
        | .ok _ => {}
      | none =>
        let columns := c.inputs.map fun i => linesOf (i.content.toOption.getD [])
        let join (parts : List Bytes) : Bytes :=
          ((parts.zipIdx).flatMap fun (p, n) => (if n = 0 then [] else mark (n - 1)) ++ p)
        if o.has 's' then .ofBytes (unlines (columns.map join))
        else
          let height := (columns.map List.length).foldl max 0
          .ofBytes (unlines ((List.range height).map fun n =>
            join (columns.map fun column => (column[n]?).getD [])))
where
  /-- The marks between columns. -/
  marksOf : List Char → List Bytes
    | '\\' :: 'n' :: rest => [10] :: marksOf rest
    | '\\' :: 't' :: rest => [9] :: marksOf rest
    | '\\' :: '0' :: rest => [] :: marksOf rest
    | '\\' :: '\\' :: rest => [92] :: marksOf rest
    | c :: rest => [UInt8.ofNat c.toNat] :: marksOf rest
    | [] => []

/-- The pieces of a line that are at most so long. -/
def pieces (width : Nat) (atBlanks : Bool) : (fuel : Nat) → Bytes → List Bytes
  | 0, line => [line]
  | fuel + 1, line =>
    if line.length ≤ width || width = 0 then [line]
    else
      let piece := line.take width
      let cut :=
        if atBlanks then
          let kept := (piece.reverse.dropWhile fun b => b ≠ 32 && b ≠ 9).length
          if kept = 0 then width else kept
        else width
      line.take cut :: pieces width atBlanks fuel (line.drop cut)

def folded (c : Call) : Answer :=
  c.withOptions { flags := "bs", valued := "w" } 1 fun o =>
    let (input, faults) := c.allInput 1
    let width := ((o.value? 'w').bind String.toNat?).getD 80
    let ended := input.getLast? = some 10
    let lines := (linesOf input).flatMap fun l => pieces width (o.has 's') l.length l
    let out := unlines lines
    faults.append (.ofBytes (if ended then out else out.dropLast))

structure Counts where
  lines : Nat := 0
  words : Nat := 0
  characters : Nat := 0
  bytes : Nat := 0
  widest : Nat := 0
  deriving Repr, Inhabited

def countsOf (input : Bytes) : Counts where
  lines := input.count 10
  words :=
    ((input.splitBy fun a b => isSpace a == isSpace b).filter fun w => !w.all isSpace).length
  characters := input.length
  bytes := input.length
  widest := ((linesOf input).map List.length).foldl max 0

/-- The counts of several inputs together. -/
def Counts.add (a b : Counts) : Counts where
  lines := a.lines + b.lines
  words := a.words + b.words
  characters := a.characters + b.characters
  bytes := a.bytes + b.bytes
  widest := max a.widest b.widest

/-- What `wc` answers. The columns are as wide as the sizes of files need, and wide anyway where an
input is no file. -/
def counted (c : Call) : Answer :=
  let grammar : Grammar :=
    { flags := "clmwL"
      long := [("bytes", 'c'), ("chars", 'm'), ("lines", 'l'), ("words", 'w'),
        ("max-line-length", 'L')] }
  c.withOptions grammar 1 fun o =>
    let shows (l : Char) (byDefault : Bool) : Bool :=
      o.has l || (byDefault && o.given.isEmpty)
    let columns (n : Counts) : List Nat :=
      (if shows 'l' true then [n.lines] else []) ++ (if shows 'w' true then [n.words] else [])
        ++ (if shows 'm' false then [n.characters] else [])
        ++ (if shows 'c' true then [n.bytes] else [])
        ++ (if shows 'L' false then [n.widest] else [])
    let isSingle := c.inputs.length = 1 && (columns {}).length = 1
    let anonymous := o.operands.isEmpty
    let sizes := c.inputs.filterMap fun i => i.content.toOption.map List.length
    let total := sizes.foldl (· + ·) 0
    let width :=
      if isSingle then 1
      else
        let needed := (toString total).length
        if c.inputs.any fun i => i.name = "-" then max needed 7 else needed
    let line (n : Counts) (name : String) : Answer :=
      .ofText (" ".intercalate ((columns n).map (padded width))
        ++ (if name = "" then "" else " " ++ name) ++ "\n")
    let (all, answer) := c.inputs.foldl (fun ((sum, a) : Counts × Answer) i =>
      match i.content with
      | .ok bs => (sum.add (countsOf bs), a.append (line (countsOf bs)
          (if anonymous then "" else i.name)))
      | .error e => (sum, a.append (.fault "wc" (i.name ++ ": " ++ describe e) 1))) ({}, {})
    if 1 < c.inputs.length then answer.append (line all "total") else answer

/-- What `expand` answers: blanks in the place of tabs. -/
def expanded (c : Call) : Answer :=
  c.withOptions { flags := "i", valued := "t" } 1 fun o =>
    let stop := max 1 (((o.value? 't').bind String.toNat?).getD 8)
    let (input, faults) := c.allInput 1
    faults.append (.ofBytes ((input.foldl (fun ((out, column) : Bytes × Nat) b =>
      if b = 9 then
        let n := stop - column % stop
        (List.replicate n 32 ++ out, column + n)
      else (b :: out, if b = 10 then 0 else column + 1)) ([], 0)).1.reverse))

end RLanguageHost.Utility.Lines
