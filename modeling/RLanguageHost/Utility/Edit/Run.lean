import RLanguageHost.Utility.Edit.Script
import RLanguageHost.Utility.Lines

/-!
# Editing of inputs

What a script of `sed` does to lines: each line goes through all commands, and what is left of it is
printed.
-/

namespace RLanguageHost.Utility.Edit

structure Line where
  text : Bytes
  /-- Whether a newline ends it. -/
  ended : Bool := true
  deriving Repr, Inhabited

/-- How far the input has been edited. -/
structure State where
  /-- The line that is edited. -/
  space : Bytes := []
  ended : Bool := true
  hold : Bytes := []
  /-- The lines that are still to come. -/
  rest : List Line
  number : Nat := 0
  /-- What has been written, the last piece first. -/
  output : List Bytes := []
  /-- What is written after the line. -/
  appended : List Bytes := []
  /-- What is written to files. -/
  written : List (String × Bytes) := []
  substituted : Bool := false
  /-- Whether a command has ended the script. -/
  hasQuit : Bool := false
  lastRegex : Option Regex := none
  /-- For commands with ranges that have begun: the line that ends the range, if it is known. -/
  ranges : List (Nat × Option Nat) := []
  deriving Inhabited

/-- How a script goes on after a command. -/
inductive Flow where
  | next
  | goes (command : Nat)
  /-- Ends the cycle; with or without printing. -/
  | ends (prints : Bool)
  /-- Begins a cycle without reading a line. -/
  | again
  | quits (prints : Bool) (status : Nat)
  deriving Repr, Inhabited

/-- What does not change while a script runs. -/
structure Setting where
  commands : Array Command
  quiet : Bool
  /-- The content of a file. -/
  file : String → Option Bytes

namespace State

def write (s : State) (bs : Bytes) : State :=
  { s with output := bs :: s.output }

def print (s : State) : State :=
  s.write (s.space ++ if s.ended || !s.rest.isEmpty then [10] else [])

/-- Whether an address means the current line. -/
def isAt (s : State) : Address → Bool × State
  | .start => (false, s)
  | .line n => (s.number = n, s)
  | .last => (s.rest.isEmpty, s)
  | .step first stride =>
    (if stride = 0 then s.number = first
      else first ≤ s.number && (s.number - first) % stride = 0, s)
  | .regex r =>
    let r := r.or s.lastRegex
    ((r.map (·.isFound s.space)).getD false, { s with lastRegex := r })

def setRange (s : State) (n : Nat) (open_ : Option (Option Nat)) : State :=
  { s with ranges := (open_.map (n, ·)).toList ++ s.ranges.filter (·.1 ≠ n) }

/-- Whether a command is for the current line. -/
def chooses (s : State) (n : Nat) (c : Command) : Bool × State :=
  match c.first, c.stop with
  | none, _ => (true, s)
  | some a, none => s.isAt a
  | some a, some stop =>
    let begin_ (s : State) : Bool × State :=
      match stop with
      | .count k => (true, s.setRange n (if k = 0 then none else some (some (s.number + k))))
      | .multiple k =>
        let finish := if k = 0 then s.number else (s.number + k - 1) / k * k
        (true, s.setRange n (if finish ≤ s.number then none else some (some finish)))
      | .address (.line k) =>
        (true, s.setRange n (if k ≤ s.number then none else some (some k)))
      | .address _ => (true, s.setRange n (some none))
    match s.ranges.lookup n with
    | none =>
      match a with
      | .start =>
        if s.number = 1 then
          match stop with
          | .address e =>
            let (ends, s) := s.isAt e
            (true, if ends then s else s.setRange n (some none))
          | _ => begin_ s
        else (false, s)
      | _ =>
        let (starts, s) := s.isAt a
        if starts then begin_ s else (false, s)
    | some (some last) =>
      if s.number < last then (true, s)
      else if s.number = last then (true, s.setRange n none)
      else
        -- lines were passed within a cycle
        let (starts, s) := (s.setRange n none).isAt a
        (starts, s)
    | some none =>
      match stop with
      | .address e =>
        let (ends, s) := s.isAt e
        (true, if ends then s.setRange n none else s)
      | _ => (true, s)

/-- Writes what waits for the end of the line. -/
def flush (s : State) : State :=
  { s with output := s.appended.reverse ++ s.output, appended := [] }

def read? (s : State) : Option (Line × State) :=
  match s.rest with
  | [] => none
  | l :: rest => some (l, { s with rest, number := s.number + 1, ended := l.ended })

end State

structure Letters where
  lasting : Option Char := none
  once : Option Char := none

def Letters.apply (l : Letters) (bs : Bytes) : Bytes × Letters :=
  let change (c : Option Char) (b : UInt8) : UInt8 :=
    let ch := Char.ofNat b.toNat
    match c with
    | some 'U' | some 'u' => if b < 128 then Regex.byte ch.toUpper else b
    | some 'L' | some 'l' => if b < 128 then Regex.byte ch.toLower else b
    | _ => b
  match bs with
  | [] => ([], l)
  | b :: rest =>
    (change (l.once.or l.lasting) b :: rest.map (change l.lasting), { l with once := none })

/-- The text that replaces a match. -/
def filled (parts : List Part) (a b : Regex.Progress) : Bytes :=
  (parts.foldl (fun ((out, l) : Bytes × Letters) part =>
    let put (bs : Bytes) : Bytes × Letters :=
      let (bs, l) := l.apply bs
      (out ++ bs, l)
    match part with
    | .text bs => put bs
    | .group 0 => put (b.since a)
    | .group n => put ((b.groups.lookup n).getD [])
    | .letters 'E' => (out, {})
    | .letters c =>
      if c = 'u' || c = 'l' then (out, { l with once := some c })
      else (out, { lasting := some c })) ([], {})).1

def visible (bs : Bytes) : Bytes :=
  bs.flatMap (fun b =>
    match [((92 : UInt8), '\\'), (7, 'a'), (8, 'b'), (12, 'f'), (10, 'n'), (13, 'r'), (9, 't'),
        (11, 'v')].lookup b with
    | some c => [92, Regex.byte c]
    | none =>
      if 32 ≤ b && b < 127 then [b]
      else
        let ds := Nat.toDigits 8 b.toNat
        92 :: raw (List.replicate (3 - ds.length) '0' ++ ds)) ++ [36]

def perform (g : Setting) (s : State) (n : Nat) (c : Command) : Flow × State :=
  match c.action with
  | .substitute sub =>
    match sub.regex.or s.lastRegex with
    | none => (.next, s)
    | some r =>
      let (text, count) := r.replace sub.all sub.number (filled sub.replacement) s.space
      let s := { s with lastRegex := some r }
      if count = 0 then (.next, s)
      else
        let s := { s with space := text, substituted := true }
        (.next, if sub.prints then s.print else s)
  | .exchange table =>
    (.next, { s with space := s.space.map fun b => (table.lookup b).getD b })
  | .append text => (.next, { s with appended := s.appended ++ [text] })
  | .insert text => (.next, s.write text)
  | .change text =>
    -- a range is replaced at its end
    let inRange := c.stop.isSome && !c.negated && (s.ranges.lookup n).isSome
    (.ends false, if inRange then s else s.write text)
  | .readFile path => (.next, { s with appended := s.appended ++ (g.file path).toList })
  | .writeFile path => (.next, { s with written := s.written ++ [(path, s.space ++ [10])] })
  | .branch onlyIf label =>
    let taken := onlyIf.all (· = s.substituted)
    let s := if onlyIf.isSome then { s with substituted := false } else s
    let target : Nat :=
      if label = "" then g.commands.size
      else
        (g.commands.toList.findIdx? fun c =>
          match c.action with
          | .label l => l = label
          | _ => false).getD g.commands.size
    (if taken then .goes target else .next, s)
  | .label _ | .close => (.next, s)
  | .block _ => (.next, s)
  | .quit prints status => (.quits prints status, { s with hasQuit := true })
  | .letter l =>
    match l with
    | 'd' => (.ends false, s)
    | 'D' =>
      if s.space.contains 10 then
        (.again, { s with space := (s.space.dropWhile (· ≠ 10)).drop 1 })
      else (.ends false, s)
    | 'p' => (.next, s.print)
    | 'P' => (.next, s.write (s.space.takeWhile (· ≠ 10) ++ [10]))
    | 'n' =>
      if s.rest.isEmpty then (.quits true 0, s)
      else
        let s := (if g.quiet then s else s.print).flush
        match s.read? with
        | none => (.quits false 0, s)
        | some (line, s) => (.next, { s with space := line.text })
    | 'N' =>
      let s := if s.rest.isEmpty then s else s.flush
      match s.read? with
      | none => (.quits true 0, s)
      | some (line, s) => (.next, { s with space := s.space ++ 10 :: line.text })
    | 'g' => (.next, { s with space := s.hold })
    | 'G' => (.next, { s with space := s.space ++ 10 :: s.hold })
    | 'h' => (.next, { s with hold := s.space })
    | 'H' => (.next, { s with hold := s.hold ++ 10 :: s.space })
    | 'x' => (.next, { s with space := s.hold, hold := s.space })
    | '=' => (.next, s.write (Shell.rawOf (toString s.number ++ "\n")))
    | 'l' => (.next, s.write (visible s.space ++ [10]))
    | 'z' => (.next, { s with space := [] })
    | _ => (.next, s)

/-- Runs the commands from one on for the current line. -/
def cycle (g : Setting) : (fuel : Nat) → Nat → State → Flow × State
  | 0, _, s => (.quits false 1, s)
  | fuel + 1, n, s =>
    match g.commands[n]? with
    | none => (.ends true, s)
    | some c =>
      let (chosen, s) := s.chooses n c
      if chosen == c.negated then
        match c.action with
        | .block close => cycle g fuel (close + 1) s
        | _ => cycle g fuel (n + 1) s
      else
        match perform g s n c with
        | (.next, s) => cycle g fuel (n + 1) s
        | (.goes k, s) => cycle g fuel k s
        | result => result

/-- A bound on the commands that are run for a line. -/
def patience : Nat := 20000

/-- Edits all lines. The result has the status. -/
def edit (g : Setting) : (fuel : Nat) → (reads : Bool) → State → State × Nat
  | 0, _, s => (s, 1)
  | fuel + 1, reads, s =>
    let started : Option State :=
      if reads then
        match s.read? with
        | none => none
        | some (line, s) => some { s with space := line.text, substituted := false }
      else some s
    match started with
    | none => (s, 0)
    | some s =>
      let finish (prints : Bool) (s : State) : State :=
        (if prints && !g.quiet then s.print else s).flush
      match cycle g patience 0 s with
      | (.again, s) => edit g fuel false (finish false s)
      | (.quits prints status, s) => (finish prints s, status)
      | (.ends prints, s) => edit g fuel true (finish prints s)
      | (_, s) => edit g fuel true (finish true s)

def linesFrom (bs : Bytes) : List Line :=
  (Lines.withEnds bs).map fun l =>
    if l.getLast? = some 10 then { text := l.dropLast } else { text := l, ended := false }

def grammar : Grammar where
  flags := "nErszui="
  valued := "efl"
  long := [("quiet", 'n'), ("silent", 'n'), ("expression", 'e'), ("file", 'f'),
    ("regexp-extended", 'E'), ("in-place", 'i'), ("separate", 's'), ("unbuffered", 'u'),
    ("null-data", 'z')]

/-- The options of a call; a suffix after the option that edits files in place is dropped. -/
def optionsOf (c : Call) : Except String Options :=
  Options.read grammar {} (c.arguments.map fun a =>
    if a.startsWith "-i" && !a.startsWith "--" then "-i" else a)

def filesOf (o : Options) : List String :=
  let files := if o.has 'e' || o.has 'f' then o.operands else o.operands.drop 1
  if files.isEmpty then ["-"] else files

def writeTo (c : Call) (tree : FileTree) (path : String) (bs : Bytes) (empties : Bool) :
    FileTree :=
  match tree.locateForWriting ⟨Shell.rawOf (pathText c.directory)⟩ ⟨Shell.rawOf path⟩ with
  | .ok (place, _) => (if empties then tree.emptyAt place else tree).appendAt place bs
  | .error _ => tree

/-- The message about a script that cannot be read. -/
def ScriptFault.message (f : ScriptFault) : String :=
  match f.place with
  | some n => "-e expression #1, char " ++ toString n ++ ": " ++ f.text
  | none => f.text

def scriptOf (c : Call) (o : Options) : String :=
  let scripts := if o.has 'e' || o.has 'f' then o.values 'e' else o.operands.take 1
  let fromFiles := (o.values 'f').map fun path =>
    match c.tree.read ⟨Shell.rawOf (pathText c.directory)⟩ ⟨Shell.rawOf path⟩ with
    | .ok bs => Shell.textOf bs
    | .error _ => ""
  "\n".intercalate (scripts ++ fromFiles)

/-- How a call goes through its input. -/
def pace? (c : Call) : Option Pace :=
  match optionsOf c with
  | .error _ => none
  | .ok o =>
    if o.has 'i' || o.has 's' then none
    else
      let quits :=
        match commandsOf (o.has 'E' || o.has 'r') (scriptOf c o) with
        | .error _ => false
        | .ok commands => commands.toList.any fun k =>
          match k.action with
          | .quit .. => true
          | _ => false
      some { lineByLine := o.has 'u' || c.isUnbuffered, mayStop := quits }

/-- What `sed` answers. -/
def run (c : Call) : Answer :=
  match optionsOf c with
  | .error text => .fault "sed" text 1
  | .ok o =>
    let script := scriptOf c o
    match commandsOf (o.has 'E' || o.has 'r') script with
    | .error f => .fault "sed" f.message (if f.place.isSome then 1 else 4)
    | .ok commands =>
      let quiet := o.has 'n' || script.startsWith "#n\n"
      let file (path : String) : Option Bytes :=
        (c.tree.read ⟨Shell.rawOf (pathText c.directory)⟩ ⟨Shell.rawOf path⟩).toOption
      let setting : Setting := { commands, quiet, file }
      let fault (i : Input) (e : Failure) : Answer :=
        .fault "sed" (match e with
          | .system .isDirectory => "couldn\x27t edit " ++ i.name ++ ": not a regular file"
          | e => "can\x27t read " ++ i.name ++ ": " ++ describe e) 2
      let zero := o.has 'z'
      let swap (bs : Bytes) : Bytes :=
        if zero then bs.map fun b => if b = 10 then 0 else if b = 0 then 10 else b else bs
      let work (bs : Bytes) : Bytes × State × Nat :=
        let lines := linesFrom (swap bs)
        let (s, status) := edit setting (4 * lines.length + 1000) true { rest := lines }
        (swap s.output.reverse.flatten, s, status)
      let save (tree : FileTree) (s : State) : FileTree :=
        let names := (s.written.map (·.1)).eraseDups
        names.foldl (fun t n =>
          writeTo c t n ((s.written.filter (·.1 = n)).flatMap (·.2)) true) tree
      if o.has 'i' || o.has 's' then
        c.inputs.foldl (fun (a : Answer) i =>
          match i.content with
          | .error e => a.append (fault i e)
          | .ok bs =>
            let (out, s, status) := work bs
            let tree := save (a.tree.getD c.tree) s
            if o.has 'i' && i.name ≠ "-" then
              a.append { status, tree := some (writeTo c tree i.name out true) }
            else a.append { Answer.ofBytes out with status, tree := some tree }) {}
      else
        let faults := c.inputs.foldl (fun (a : Answer) i =>
          match i.content with
          | .error e => a.append (fault i e)
          | .ok _ => a) {}
        let (out, s, status) := work (c.inputs.flatMap fun i => i.content.toOption.getD [])
        let tree := if s.written.isEmpty then none else some (save c.tree s)
        { faults.append { Answer.ofBytes out with status, tree } with isDecided := s.hasQuit }

end RLanguageHost.Utility.Edit
