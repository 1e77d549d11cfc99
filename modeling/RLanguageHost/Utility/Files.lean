import RLanguageHost.Shell.Field
import RLanguageHost.Utility.Words

/-!
# Utilities on files

Utilities that list files and directories, and that make, move, copy and remove them.
-/

namespace RLanguageHost.Utility.Files

def here (c : Call) : FilePath :=
  ⟨Shell.rawOf (pathText c.directory)⟩

def path (s : String) : FilePath :=
  ⟨Shell.rawOf s⟩

def namesIn (tree : FileTree) (place : Place) : List Bytes :=
  let names := tree.entries.filterMap fun (p, _) =>
    if p ≠ [] && p.dropLast = place then p.getLast? else none
  names.mergeSort atMost

def without (tree : FileTree) (place : Place) : FileTree :=
  ⟨tree.entries.filter fun e => !place.isPrefixOf e.1⟩

/-- The tree with what is at a place and below it also at another place. -/
def copied (tree : FileTree) (source target : Place) : FileTree :=
  let found := tree.entries.filter fun e => source.isPrefixOf e.1
  found.foldl (fun t e => t.put (target ++ e.1.drop source.length) e.2) tree

/-- The work of a call on the tree: the answer so far, with the tree. -/
structure Work where
  answer : Answer := {}
  tree : FileTree
  deriving Inhabited

namespace Work

def fault (w : Work) (c : Call) (text : String) : Work :=
  { w with answer := w.answer.append (.fault c.name text 1) }

def print (w : Work) (text : String) : Work :=
  { w with answer := w.answer.append (.ofText (text ++ "\n")) }

def change (w : Work) (tree : FileTree) : Work :=
  { w with tree }

def done (w : Work) : Answer :=
  { w.answer with tree := some w.tree }

def locate (w : Work) (c : Call) (s : String) : Except Failure (Place × Entry) :=
  w.tree.locate (here c) (path s)

end Work

def quoted (s : String) : String :=
  "\x27" ++ s ++ "\x27"

/-- A path without slashes at its end. -/
def trimmed (s : String) : String :=
  String.ofList ((s.toList.reverse.dropWhile (· = '/')).reverse)

def eachOperand (c : Call) (operands : List String) (f : Work → String → Work) : Answer :=
  (operands.foldl f { tree := c.tree }).done

def makeDirectory (c : Call) (o : Options) (w : Work) (s : String) : Work :=
  let cannot (why : String) : Work :=
    w.fault c ("cannot create directory " ++ quoted s ++ ": " ++ why)
  let said (w : Work) : Work :=
    if o.has 'v' then w.print ("mkdir: created directory " ++ quoted s) else w
  match w.locate c s with
  | .ok (_, .directory) => if o.has 'p' then w else cannot "File exists"
  | .ok _ => cannot "File exists"
  | .error _ =>
    let parent := Words.directoryOf s
    match w.locate c parent with
    | .ok (place, .directory) =>
      said (w.change (w.tree.put (place ++ [Shell.rawOf (Words.baseOf s)]) .directory))
    | .ok _ => cannot "Not a directory"
    | .error e =>
      if o.has 'p' then
        let steps := (trimmed s).splitOn "/"
        let start : Place := if s.startsWith "/" then [] else c.directory
        let place := (steps.filter fun p => p ≠ "" && p ≠ ".").foldl (fun (at_ : Place) p =>
          if p = ".." then at_.dropLast else at_ ++ [Shell.rawOf p]) start
        said (w.change (w.tree.makeDirectories place))
      else cannot (describe e)

/-- What `mkdir` answers. -/
def makeDirectories (c : Call) : Answer :=
  let grammar : Grammar :=
    { flags := "pv", valued := "m", long := [("parents", 'p'), ("verbose", 'v'), ("mode", 'm')] }
  c.withOptions grammar 1 fun o =>
    if o.operands.isEmpty then Words.misuse c "missing operand" 1
    else eachOperand c o.operands (makeDirectory c o)

/-- What `rmdir` answers. -/
def removeDirectories (c : Call) : Answer :=
  c.withOptions { flags := "pv", long := [("parents", 'p'), ("verbose", 'v')] } 1 fun o =>
    if o.operands.isEmpty then Words.misuse c "missing operand" 1
    else
      eachOperand c o.operands fun w s =>
        let w := if o.has 'v' then w.print ("rmdir: removing directory, " ++ quoted s) else w
        let cannot (why : String) : Work :=
          w.fault c ("failed to remove " ++ quoted s ++ ": " ++ why)
        match w.locate c s with
        | .ok (place, .directory) =>
          if (namesIn w.tree place).isEmpty then w.change (without w.tree place)
          else cannot "Directory not empty"
        | .ok _ => cannot "Not a directory"
        | .error e => cannot (describe e)

/-- What `rm` answers. -/
def remove (c : Call) : Answer :=
  let grammar : Grammar :=
    { flags := "rRfivd", long := [("recursive", 'r'), ("force", 'f'), ("verbose", 'v')] }
  c.withOptions grammar 1 fun o =>
    if o.operands.isEmpty then
      if o.has 'f' then {} else Words.misuse c "missing operand" 1
    else
      eachOperand c o.operands fun w s =>
        let cannot (why : String) : Work := w.fault c ("cannot remove " ++ quoted s ++ ": " ++ why)
        match w.locate c s with
        | .ok (place, .directory) =>
          if o.has 'r' || o.has 'R' then w.change (without w.tree place)
          else if o.has 'd' && (namesIn w.tree place).isEmpty then w.change (without w.tree place)
          else cannot "Is a directory"
        | .ok (place, _) =>
          let w := w.change (without w.tree place)
          if o.has 'v' then w.print ("removed " ++ quoted s) else w
        | .error e =>
          if o.has 'f' && (match e with
            | .system .noEntry | .system .notDirectory => true
            | _ => false) then w
          else cannot (describe e)

def touch (c : Call) : Answer :=
  let grammar : Grammar :=
    { flags := "acmf", valued := "drt", long := [("no-create", 'c'), ("date", 'd')] }
  c.withOptions grammar 1 fun o =>
    if o.operands.isEmpty then Words.misuse c "missing file operand" 1
    else
      eachOperand c o.operands fun w s =>
        match w.locate c s with
        | .ok _ => w
        | .error _ =>
          if o.has 'c' then w
          else
            match w.tree.locateForWriting (here c) (path s) with
            | .ok (place, _) => w.change (w.tree.appendAt place [])
            | .error e =>
              let why :=
                match e with
                | .system .isDirectory => "No such file or directory"
                | e => describe e
              w.fault c ("cannot touch " ++ quoted s ++ ": " ++ why)

def transfer (c : Call) (moves : Bool) (o : Options) (target : String) (intoDirectory : Bool)
    (w : Work) (s : String) : Work :=
  match w.locate c s with
  | .error e => w.fault c ("cannot stat " ++ quoted s ++ ": " ++ describe e)
  | .ok (source, entry) =>
    let goal := if intoDirectory then trimmed target ++ "/" ++ Words.baseOf s else target
    let isDirectory := entry = .directory
    let recursive := moves || o.has 'r' || o.has 'R' || o.has 'a'
    if isDirectory && !recursive then
      w.fault c ("-r not specified; omitting directory " ++ quoted s)
    else
      let goal' := if isDirectory then trimmed goal else goal
      match w.locate c goal', w.tree.locateForWriting (here c) (path goal') with
      | .ok (_, .directory), _ =>
        if isDirectory then
          match w.locate c goal' with
          | .ok (place, _) => put w source place
          | .error _ => w
        else w.fault c ("cannot overwrite directory " ++ quoted goal ++ " with non-directory")
      | .ok (place, _), _ | .error _, .ok (place, _) =>
        if place = source then
          w.fault c (quoted s ++ " and " ++ quoted goal ++ " are the same file")
        else put w source place
      | .error _, .error e =>
        if moves then
          w.fault c ("cannot move " ++ quoted s ++ " to " ++ quoted goal ++ ": " ++ describe e)
        else
          w.fault c ("cannot create " ++ (if isDirectory then "directory " else "regular file ")
            ++ quoted goal ++ ": " ++ describe e)
where
  /-- Puts what is at one place at another one. -/
  put (w : Work) (source place : Place) : Work :=
    let tree := copied w.tree source place
    w.change (if moves then without tree source else tree)

/-- What `cp` and `mv` answer. -/
def transferAll (moves : Bool) (c : Call) : Answer :=
  let grammar : Grammar :=
    { flags := "rRafinpuvTd", valued := "t", long := [("recursive", 'r'), ("force", 'f'),
        ("archive", 'a'), ("verbose", 'v')] }
  c.withOptions grammar 1 fun o =>
    match o.operands, o.value? 't' with
    | [], _ => Words.misuse c "missing file operand" 1
    | sources, some target =>
      eachOperand c sources (transfer c moves o target true)
    | [only], none =>
      Words.misuse c ("missing destination file operand after " ++ quoted only) 1
    | operands, none =>
      let target := operands.getLast?.getD ""
      let sources := operands.dropLast
      match c.locate target with
      | .ok (_, .directory) => eachOperand c sources (transfer c moves o target (!o.has 'T'))
      | .ok _ =>
        if 1 < sources.length then
          .fault c.name ("target " ++ quoted target ++ ": Not a directory") 1
        else eachOperand c sources (transfer c moves o target false)
      | .error e =>
        if 1 < sources.length then
          .fault c.name ("target " ++ quoted target ++ ": " ++ describe e) 1
        else eachOperand c sources (transfer c moves o target false)

/-- What `ln` answers; a link is a copy here. -/
def link (c : Call) : Answer :=
  c.withOptions { flags := "sfnvr", long := [("symbolic", 's'), ("force", 'f')] } 1 fun o =>
    match o.operands with
    | [] => Words.misuse c "missing file operand" 1
    | [source] => eachOperand c [source] (transfer c false (o.add 'a' "") "." true)
    | operands =>
      let target := operands.getLast?.getD ""
      match c.locate target with
      | .ok (_, .directory) =>
        eachOperand c operands.dropLast (transfer c false (o.add 'a' "") target true)
      | .ok _ =>
        if o.has 'f' then
          eachOperand c operands.dropLast (transfer c false (o.add 'a' "") target false)
        else .fault c.name ("failed to create " ++ (if o.has 's' then "symbolic" else "hard")
          ++ " link " ++ quoted target ++ ": File exists") 1
      | .error _ => eachOperand c operands.dropLast (transfer c false (o.add 'a' "") target false)

/-- Whether a mode makes files executable, if it says so. -/
def modeOf? (mode : String) : Option (Bool → Bool) :=
  if mode ≠ "" && mode.toList.all Shell.isOctalDigit then
    let n := Shell.numberIn 8 mode.toList
    some fun _ => n % 2 = 1 || n / 8 % 2 = 1 || n / 64 % 2 = 1
  else
    (mode.splitOn ",").foldlM (fun f clause => do
      let who := clause.toList.takeWhile fun c => "ugoa".toList.contains c
      match clause.toList.drop who.length with
      | op :: letters =>
        if !letters.all fun c => "rwxXst".toList.contains c then none
        else if op = '+' then some (if letters.contains 'x' then fun _ => true else f)
        else if op = '-' then some (if letters.contains 'x' then fun _ => false else f)
        else if op = '=' then some fun _ => letters.contains 'x'
        else none
      | [] => none) id

/-- What `chmod` answers. -/
def changeMode (c : Call) : Answer :=
  let isMode (a : String) : Bool :=
    (a.startsWith "-") && 1 < a.length
      && (a.toList.drop 1).all fun ch => "rwxXst".toList.contains ch
  let options := c.arguments.takeWhile fun a => a.startsWith "-" && !isMode a
  let recursive := options.any fun a => a = "-R" || a = "--recursive"
  match c.arguments.drop options.length with
  | [] => Words.misuse c "missing operand" 1
  | [mode] => Words.misuse c ("missing operand after " ++ quoted mode) 1
  | mode :: files =>
    match modeOf? mode with
    | none => Words.misuse c ("invalid mode: " ++ quoted mode) 1
    | some f =>
      eachOperand c files fun w s =>
        match w.locate c s with
        | .error e => w.fault c ("cannot access " ++ quoted s ++ ": " ++ describe e)
        | .ok (place, .file content executable) =>
          w.change (w.tree.put place (.file content (f executable)))
        | .ok (place, .directory) =>
          if recursive then
            w.change ⟨w.tree.entries.map fun (p, e) =>
              match e with
              | .file content executable =>
                if place.isPrefixOf p then (p, .file content (f executable)) else (p, e)
              | .directory => (p, e)⟩
          else w

def signOf (o : Options) (entry : Option Entry) : String :=
  match entry with
  | some .directory => if o.has 'F' || o.has 'p' then "/" else ""
  | some (.file _ true) => if o.has 'F' then "*" else ""
  | _ => ""

def listing (o : Options) (tree : FileTree) (place : Place) : List String :=
  let names := (namesIn tree place).map Shell.textOf
  let names := if o.has 'a' || o.has 'A' then names else names.filter fun n => !n.startsWith "."
  let names := names.map fun n => n ++ signOf o (tree.entry? (place ++ [Shell.rawOf n]))
  let names := if o.has 'a' then "." :: ".." :: names else names
  if o.has 'r' then names.reverse else names

/-- The directories below a place with their paths, each before those in it. -/
def below (tree : FileTree) : (fuel : Nat) → (shown : String) → Place → List (String × Place)
  | 0, shown, place => [(shown, place)]
  | fuel + 1, shown, place =>
    let inner := (namesIn tree place).filter fun n => tree.entry? (place ++ [n]) = some .directory
    (shown, place) :: inner.flatMap fun n =>
      below tree fuel (shown ++ "/" ++ Shell.textOf n) (place ++ [n])

/-- The deepest nesting of directories that is looked at. -/
def deepest : Nat := 64

/-- What `ls` answers. -/
def list (c : Call) : Answer :=
  let grammar : Grammar :=
    { flags := "aA1dRFprCxtSULhlgonikcu="
      long := [("all", 'a'), ("almost-all", 'A'), ("directory", 'd'), ("recursive", 'R'),
        ("reverse", 'r'), ("classify", 'F'), ("color", 'U')] }
  c.withOptions grammar 2 fun o =>
    let operands := if o.operands.isEmpty then ["."] else o.operands
    let found := operands.map fun s => (s, c.locate s)
    let faults := found.filterMap fun (s, r) =>
      match r with
      | .error e => some (Answer.fault "ls" ("cannot access " ++ quoted s ++ ": " ++ describe e) 2)
      | .ok _ => none
    let isListed (e : Entry) : Bool := e = .directory && !o.has 'd'
    let plain := found.filterMap fun (s, r) =>
      match r with
      | .ok (_, e) => if isListed e then none else some (s ++ signOf o (some e))
      | .error _ => none
    let directories := found.filterMap fun (s, r) =>
      match r with
      | .ok (place, e) => if isListed e then some (s, place) else none
      | .error _ => none
    let sorted (ss : List String) : List String :=
      let ss := ss.mergeSort fun a b => decide (a ≤ b)
      if o.has 'r' then ss.reverse else ss
    let directories := directories.mergeSort fun a b => decide (a.1 ≤ b.1)
    let all := if o.has 'R' then directories.flatMap fun d => below c.tree deepest d.1 d.2
      else directories
    let headed := o.has 'R' || 1 < operands.length
    let block (d : String × Place) : String :=
      (if headed then d.1 ++ ":\n" else "")
        ++ String.join ((listing o c.tree d.2).map (· ++ "\n"))
    let text := String.join ((sorted plain).map (· ++ "\n"))
    let blocks := "\n".intercalate (all.map block)
    let joint := if text ≠ "" && blocks ≠ "" then "\n" else ""
    (faults.foldl Answer.append {}).append (.ofText (text ++ joint ++ blocks))

/-- The text of a place relative to nothing. -/
def realPath (c : Call) (s : String) : Except Failure String :=
  match c.locate s with
  | .ok (place, _) => .ok (pathText place)
  | .error _ =>
    match c.locate (Words.directoryOf s) with
    | .ok (place, .directory) => .ok (pathText (place ++ [Shell.rawOf (Words.baseOf s)]))
    | .ok _ => .error (.system .notDirectory)
    | .error e => .error e

/-- What `realpath` and `readlink` answer. -/
def realPaths (c : Call) : Answer :=
  c.withOptions { flags := "femnsqLPz" } 1 fun o =>
    if o.operands.isEmpty then Words.misuse c "missing operand" 1
    else
      o.operands.foldl (fun (a : Answer) s =>
        if c.name = "readlink" && o.given.isEmpty then a.append (.ofStatus 1)
        else
          match realPath c s with
          | .ok p => a.append (.ofText (p ++ "\n"))
          | .error e =>
            a.append (if c.name = "readlink" then .ofStatus 1
              else .fault c.name (s ++ ": " ++ describe e) 1)) {}

/-- What of a tree `find` looks at: all below a place with their paths and depths. -/
def walk (tree : FileTree) : (fuel depth : Nat) → (shown : String) → Place →
    List (String × Place × Nat)
  | 0, depth, shown, place => [(shown, place, depth)]
  | fuel + 1, depth, shown, place =>
    (shown, place, depth) ::
      if tree.entry? place = some .directory then
        (namesIn tree place).flatMap fun n =>
          walk tree fuel (depth + 1)
            ((if shown = "/" then "" else shown) ++ "/" ++ Shell.textOf n) (place ++ [n])
      else []

/-- Whether the tests of `find` hold. -/
def passes (c : Call) (shown : String) (place : Place) (depth : Nat) :
    (fuel : Nat) → List String → Bool
  | 0, _ => true
  | fuel + 1, tests =>
    let isMatch (pattern text : String) : Bool :=
      Shell.Field.isMatch (pattern.toList.map (·, false)) text.toList
    match tests with
    | "!" :: test :: value :: rest | "-not" :: test :: value :: rest =>
      !passes c shown place depth fuel [test, value] && passes c shown place depth fuel rest
    | "-name" :: p :: rest =>
      isMatch p (Words.baseOf shown) && passes c shown place depth fuel rest
    | "-path" :: p :: rest => isMatch p shown && passes c shown place depth fuel rest
    | "-type" :: t :: rest =>
      let isDirectory := decide (c.tree.entry? place = some .directory)
      isDirectory == (t = "d") && passes c shown place depth fuel rest
    | "-maxdepth" :: n :: rest =>
      depth ≤ n.toNat?.getD 0 && passes c shown place depth fuel rest
    | "-mindepth" :: n :: rest =>
      n.toNat?.getD 0 ≤ depth && passes c shown place depth fuel rest
    | _ :: rest => passes c shown place depth fuel rest
    | [] => true

def find (c : Call) : Answer :=
  let starts := c.arguments.takeWhile fun a => !a.startsWith "-" && a ≠ "!" && a ≠ "("
  let tests := c.arguments.drop starts.length
  let starts := if starts.isEmpty then ["."] else starts
  starts.foldl (fun (a : Answer) s =>
    match c.locate s with
    | .error e => a.append (.fault "find" (quoted s ++ ": " ++ describe e) 1)
    | .ok (place, _) =>
      let found := (walk c.tree deepest 0 s place).filter fun (shown, p, depth) =>
        passes c shown p depth (tests.length + 1) tests
      a.append (.ofText (String.join (found.map fun f => f.1 ++ "\n")))) {}

/-- What `cmp` answers. -/
def compare (c : Call) : Answer :=
  c.withOptions { flags := "sl" } 2 fun o =>
    match c.inputs with
    | [a, b] =>
      match a.content, b.content with
      | .ok x, .ok y =>
        let same := ((x.zip y).takeWhile fun (p, q) => p = q).length
        if x = y then {}
        else if o.has 's' then .ofStatus 1
        else if same = min x.length y.length then
          let (short, text) := if x.length < y.length then (a.name, x) else (b.name, y)
          let place := if text.isEmpty then "which is empty"
            else "after byte " ++ toString text.length ++ ", "
              ++ (if text.getLast? = some 10 then "line " ++ toString (text.count 10)
                else "in line " ++ toString (text.count 10 + 1))
          .fault "cmp" ("EOF on " ++ quoted short ++ " " ++ place) 1
        else
          { Answer.ofText (a.name ++ " " ++ b.name ++ " differ: char " ++ toString (same + 1)
              ++ ", line " ++ toString ((x.take same).count 10 + 1) ++ "\n") with status := 1 }
      | .error e, _ => .fault "cmp" (a.name ++ ": " ++ describe e) 2
      | _, .error e => .fault "cmp" (b.name ++ ": " ++ describe e) 2
    | _ => Words.misuse c "missing operand" 2

end RLanguageHost.Utility.Files
