import RLanguageHost.Shell.Assign
import RLanguageHost.Shell.Braces
import RLanguageHost.Shell.Change

/-!
# Expansion of shell words

Parameters and numbers are put into words, and what was put in without quotes is split into fields.
Texts within parameters are words in turn and are expanded when they are needed.
-/

namespace RLanguageHost.Shell

namespace Expansion

inductive Value where
  | nothing
  | one (text : String)
  /-- All parameters, or all elements of an array; `together` where they make one text between
  quotes. -/
  | all (texts : List String) (together : Bool)
  deriving Repr, DecidableEq, Inhabited

def Value.texts : Value → List String
  | .nothing => []
  | .one t => [t]
  | .all ts _ => ts

/-- A value with each of its texts changed. -/
def Value.map (f : String → String) : Value → Value
  | .nothing => .one (f "")
  | .one t => .one (f t)
  | .all ts together => .all (ts.map f) together

/-- The bits of a text that is put in. -/
def put (text : String) (quoted : Bool) : List Bit :=
  if quoted then [.kept text true] else [.loose text]

def Value.bits (s : State) (quoted : Bool) : Value → List Bit
  | .nothing => put "" quoted
  | .one t => put t quoted
  | .all ts together =>
    if quoted && together then [.kept (s.join ts) true]
    else (ts.map (put · quoted)).intersperse [.next] |>.flatten

/-- Whether a value is there, and, where that counts, not empty. -/
def Value.isGiven (orEmpty : Bool) : Value → Bool
  | .nothing => false
  | .one t => !(orEmpty && t = "")
  | .all ts _ => !ts.isEmpty && !(orEmpty && ts.all (· = ""))

def shownName (d : Dialect) (p : Parameter) : String :=
  match d, p.subscript with
  | .posix, _ => p.name
  | .bash, some key => p.name ++ "[" ++ key ++ "]"
  | .bash, none => if isName p.name then p.name else "$" ++ p.name

/-- The letters that say what is particular about a variable. -/
def attributeLetters (v : Variable) : String :=
  let a := v.attributes
  let arrays :=
    match v.elements with
    | some (.indexed _) => "a"
    | some (.keyed _) => "A"
    | none => ""
  arrays ++ (if a.integer then "i" else "") ++ (if a.lower then "l" else "")
    ++ (if a.reference then "n" else "") ++ (if a.constant then "r" else "")
    ++ (if a.upper then "u" else "") ++ (if a.exported then "x" else "")

def transformed (s : State) (p : Parameter) (letter : Char) (v : Value) : Value :=
  match letter with
  | 'U' => v.map (·.map Char.toUpper)
  | 'L' => v.map (·.map Char.toLower)
  | 'u' => v.map (Change.inCase true false [])
  | 'Q' => v.map Change.quotedValue
  | 'E' => v.map fun t => String.ofList (escapes (t.length + 1) t.toList)
  | 'a' => .one (((s.binding? p.name).map attributeLetters).getD "")
  | 'A' =>
    match v with
    | .one t => .one (p.name ++ "=" ++ Change.quotedValue t)
    | v => v
  | 'k' | 'K' =>
    if p.subscript.isSome then
      .all ((s.pairs p.name).flatMap fun e => [e.1, e.2]) false
    else v.map Change.quotedValue
  | _ => v

def elementTexts (s : State) (p : Parameter) : List String :=
  (s.pairs p.name).map fun e => if p.indirect then e.1 else e.2

def parameterNamed? (d : Dialect) (text : String) : Option Parameter :=
  let (name, rest) := leadingName text.toList
  let (subscript, rest) := leadingSubscript d rest
  if name.isEmpty || !rest.isEmpty then none
  else some { name := String.ofList name, subscript }

mutual

def parts : (fuel : Nat) → (splitsText : Bool) → State → Word → Except Stop (List Bit × State)
  | 0, _, s, _ => .error (.ofShell s.dialect "too many levels")
  | _, _, s, [] => .ok ([], s)
  | fuel + 1, splitsText, s, p :: rest => do
    let (first, s) ← part fuel splitsText s p
    let (more, s) ← parts fuel splitsText s rest
    return (first ++ more, s)

/-- Expands a part. In the texts of modifiers also literal text can be split. -/
def part : (fuel : Nat) → (splitsText : Bool) → State → Part → Except Stop (List Bit × State)
  | 0, _, s, _ => .error (.ofShell s.dialect "too many levels")
  | _, splitsText, s, .text t quoted =>
    .ok (if splitsText && !quoted then [.loose t] else [.kept t quoted], s)
  | _, _, s, .output source quoted => do
    let (t, s) ← s.receive (.output source)
    return (put t quoted, s)
  | _, _, s, .process writes source => do
    let (t, s) ← s.receive (.process writes source)
    return ([.kept t true], s)
  | _, _, s, .array => .ok ([], s)
  | _, _, s, .entry _ _ => .ok ([.next], s)
  | fuel + 1, _, s, .element name subscript appends => do
    let (bits, s) ← parts fuel false s (Word.ofText s.dialect .operand subscript)
    return ([.kept (name ++ "[" ++ Bit.joinedText bits ++ "]" ++ (if appends then "+=" else "="))
      false], s)
  | fuel + 1, _, s, .arithmetic source => do
    let (bits, s) ← parts fuel false s (Word.ofText s.dialect .document source)
    let (n, s) ← s.number (Bit.joinedText bits)
    return ([.kept (toString n.toInt) true], s)
  | fuel + 1, _, s, .parameter p quoted => do
    let (p, s) ← if p.indirect && p.subscript ≠ some "@" && p.subscript ≠ some "*" then do
        let (v, s) ← value fuel s { p with indirect := false }
        match v with
        | .nothing =>
          if p.name = "" then pure (p, s)
          else throw (.ofLine s.dialect (p.name ++ ": invalid indirect expansion"))
        | v =>
          let text := "".intercalate v.texts
          match parameterNamed? s.dialect text with
          | some q => pure ({ q with modifier := p.modifier }, s)
          | none => throw (.ofLine s.dialect (text ++ ": invalid variable name"))
      else pure (p, s)
    let (v, s) ← value fuel s p
    let operand (text : String) : Except Stop (List Bit × State) :=
      if quoted then do
        let (bits, s) ← parts fuel false s (Word.ofText s.dialect .quotedOperand text)
        return (bits ++ put "" true, s)
      else parts fuel true s (Word.ofText s.dialect .operand text)
    let field (s : State) (text : String) : Except Stop (Field × State) := do
      let (bits, s) ← parts fuel false s (Word.ofText s.dialect .operand text)
      return (Bit.wholeField bits, s)
    let count (s : State) (text : String) : Except Stop (Int × State) := do
      let (bits, s) ← parts fuel false s (Word.ofText s.dialect .document text)
      let (n, s) ← s.number (Bit.joinedText bits)
      return (n.toInt, s)
    let isAll := p.name = "@" || p.name = "*" || p.subscript = some "@" || p.subscript = some "*"
    let checked : Except Stop Unit :=
      match v with
      | .nothing =>
        if s.options.needsValues && !isAll then
          .error (.ofShell s.dialect (s.dialect.choose (p.name ++ ": parameter not set")
            (shownName s.dialect p ++ ": unbound variable")))
        else .ok ()
      | _ => .ok ()
    match p.modifier with
    | .plain =>
      checked
      return (v.bits s quoted, s)
    | .length =>
      checked
      let n :=
        match v with
        | .all ts _ => ts.length
        | v => ("".intercalate v.texts).length
      return (put (toString n) quoted, s)
    | .default orEmpty text =>
      if v.isGiven orEmpty then return (v.bits s quoted, s) else operand text
    | .alternative orEmpty text =>
      if v.isGiven orEmpty then operand text else return (if quoted then put "" true else [], s)
    | .assign orEmpty text =>
      if v.isGiven orEmpty then return (v.bits s quoted, s)
      else if !isName p.name then
        throw (.ofLine s.dialect (s.dialect.choose (p.name ++ ": bad variable name")
          ("$" ++ p.name ++ ": cannot assign in this way")))
      else
        let (bits, s) ← operand text
        let t := Bit.joinedText bits
        return (put t quoted, ← s.take p.name p.subscript false t)
    | .demand orEmpty text =>
      if v.isGiven orEmpty then return (v.bits s quoted, s)
      else
        let (bits, _) ← operand text
        let m := Bit.joinedText bits
        let usual := if orEmpty then
            s.dialect.choose "parameter not set or null" "parameter null or not set"
          else "parameter not set"
        throw (.ofShell s.dialect (p.name ++ ": " ++ (if m = "" then usual else m)))
    | .dropFront longest text => do
      checked
      let (pattern, s) ← field s text
      return ((v.map (Change.dropFront longest pattern)).bits s quoted, s)
    | .dropBack longest text => do
      checked
      let (pattern, s) ← field s text
      return ((v.map (Change.dropBack longest pattern)).bits s quoted, s)
    | .replace which text new => do
      checked
      let (pattern, s) ← field s text
      let (new, s) ← field s new
      return ((v.map (Change.replace which pattern new)).bits s quoted, s)
    | .changeCase upper all text => do
      checked
      let (pattern, s) ← field s text
      return ((v.map (Change.inCase upper all pattern)).bits s quoted, s)
    | .transform letter => return ((transformed s p letter v).bits s quoted, s)
    | .names =>
      let names := (s.bindings.map (·.name)).filter (·.startsWith p.name)
      return ((Value.all (names.mergeSort (· ≤ ·)) false).bits s quoted, s)
    | .slice offset text => do
      checked
      let (offset, s) ← count s offset
      let (size, s) ← match text with
        | none => pure (none, s)
        | some text => do
          let (n, s) ← count s text
          pure (some n, s)
      let fault : Stop :=
        .ofLine s.dialect ((text.getD "") ++ ": substring expression < 0")
      match v with
      | .all ts together =>
        if size.any (· < 0) then throw fault
        let ts :=
          if p.subscript.isSome then
            if offset < 0 then (Change.slice? ts offset size).getD []
            else
              let from_ := (s.pairs p.name).dropWhile fun e =>
                decide ((e.1.toInt?.getD 0) < offset)
              let from_ := if s.isKeyed p.name then (s.pairs p.name).drop offset.toNat else from_
              (size.map fun n => (from_.map (·.2)).take n.toNat).getD (from_.map (·.2))
          else (Change.slice? (s.name :: ts) offset size).getD []
        let ts := if p.subscript.isNone && offset = 0 && size.isNone then s.name :: v.texts else ts
        return ((Value.all ts together).bits s quoted, s)
      | v =>
        match Change.slice? ("".intercalate v.texts).toList offset size with
        | some cs => return (put (String.ofList cs) quoted, s)
        | none => throw fault
    | .unknown whole =>
      throw (.ofLine s.dialect (s.dialect.choose "Bad substitution"
        ("$\x7b" ++ whole ++ "\x7d: bad substitution")))

def value : (fuel : Nat) → State → Parameter → Except Stop (Value × State)
  | 0, s, _ => .error (.ofShell s.dialect "too many levels")
  | fuel + 1, s, p =>
    match p.subscript with
    | none =>
      if p.name = "@" || p.name = "*" then .ok (.all s.parameters (p.name = "*"), s)
      else .ok (((s.value? p.name).map .one).getD .nothing, s)
    | some "@" => .ok (.all (elementTexts s p) false, s)
    | some "*" => .ok (.all (elementTexts s p) true, s)
    | some subscript => do
      let (bits, s) ← parts fuel false s (Word.ofText s.dialect .operand subscript)
      let (key, s) ← s.keyOf p.name (Bit.joinedText bits)
      return ((((s.pairs p.name).lookup key).map .one).getD .nothing, s)

end

/-- How deep words can be nested. -/
def depth : Nat := 1000

def accounts : List (String × String) :=
  [("root", "/root")]

/-- What a tilde with the characters after it stands for. -/
def home? (s : State) (name : String) : Option String :=
  match name with
  | "" => s.value? "HOME"
  | "+" => if s.dialect = .bash then s.value? "PWD" else none
  | "-" => if s.dialect = .bash then s.value? "OLDPWD" else none
  | _ => accounts.lookup name

/-- The home directory in the place of a tilde at the start of a text. -/
def textWithHome (s : State) (isLast : Bool) (t : String) : List Part :=
  match t.toList with
  | '~' :: rest =>
    let name := rest.takeWhile (· ≠ '/')
    match home? s (String.ofList name), isLast || name.length < rest.length with
    | some h, true => [.text h true, .text (String.ofList (rest.drop name.length)) false]
    | _, _ => [.text t false]
  | _ => [.text t false]

/-- The home directory in the place of a tilde at the start of a word. -/
def withHome (s : State) (w : Word) : Word :=
  match w with
  | .text t false :: rest => textWithHome s rest.isEmpty t ++ rest
  | _ => w

/-- The home directory in the place of tildes at the start of a value and after its colons. -/
def withHomes (s : State) (w : Word) : Word :=
  let n := w.length
  (w.zipIdx).flatMap fun (p, i) =>
    match p with
    | .text t false =>
      let pieces := t.splitOn ":"
      let last := pieces.length
      ((pieces.zipIdx).map fun (piece, k) =>
        if k = 0 && i ≠ 0 then [Part.text piece false]
        else textWithHome s (k + 1 < last || i + 1 = n) piece).intersperse [.text ":" false]
          |>.flatten
    | p => [p]

/-- The text of a word, which is not split. -/
def text (s : State) (w : Word) : Except Stop (String × State) := do
  let (bits, s) ← parts depth false s (withHome s w)
  return (Bit.joinedText bits, s)

def textOf (s : State) (ctx : Context) (source : String) : Except Stop (String × State) := do
  let (bits, s) ← parts depth false s (Word.ofText s.dialect ctx source)
  return (Bit.joinedText bits, s)

def pattern (s : State) (w : Word) : Except Stop (Field × State) := do
  let (bits, s) ← parts depth false s (withHome s w)
  return (Bit.wholeField bits, s)

def fields (s : State) (w : Word) : Except Stop (List Field × State) := do
  let (bits, s) ← parts depth false s (withHome s w)
  return (Bit.fields s.separators.toList bits, s)

def allFields (s : State) (ws : List Word) : Except Stop (List Field × State) :=
  let ws := s.dialect.choose ws (ws.flatMap Braces.words)
  ws.foldlM (fun (found, s) w => do
    let (more, s) ← fields s w
    return (found ++ more, s)) ([], s)

/-- The value of an assignment, which is not split. -/
def assigned (s : State) (w : Word) : Except Stop (String × State) := do
  let (bits, s) ← parts depth false s (withHomes s w)
  return (Bit.joinedText bits, s)

/-- The elements that a word lists, each with its key and the parts of its value. -/
def entries : Word → List (Option String × Bool × Word)
  | [] => []
  | .entry key appends :: rest =>
    let own := rest.takeWhile fun | .entry .. => false | _ => true
    (key, appends, own) :: entries rest
  | _ :: rest => entries rest

def isArray : Word → Bool
  | .array :: _ => true
  | _ => false

def alternating : List String → List (String × String)
  | k :: v :: rest => (k, v) :: alternating rest
  | [k] => [(k, "")]
  | [] => []

/-- Assigns the elements of an array. Texts without a key take the numbers in turn. -/
def assignArray (files : Field → List String) (s : State) (a : Assignment) :
    Except Stop State := do
  let name := s.resolve a.name
  if s.isConstant name then throw (s.constantFault name)
  let v := s.bindingOrNew name
  let start : Elements :=
    match v.elements, a.appends with
    | some (.keyed all), true => .keyed all
    | some (.keyed _), false => .keyed []
    | _, true => v.asElements
    | _, false => .indexed []
  let s := s.assignElements name start
  let put (s : State) (key value : String) (appends : Bool) : Except Stop State := do
    let (text, s) ← s.held v.attributes appends (((s.pairs name).lookup key).getD "") value
    return s.assignElement name key text
  if s.isKeyed name then
    let all := entries a.value
    if all.all (·.1.isNone) then
      -- keys and values alternate
      let (fs, s) ← allFields s (all.map (·.2.2))
      let texts := fs.map Field.text
      (alternating texts).foldlM (fun s e => put s e.1 e.2 false) s
    else
      all.foldlM (fun s (key, appends, w) => do
        let (key, s) ← textOf s .operand (key.getD "0")
        let (value, s) ← assigned s w
        put s key value appends) s
  else
    let (s, _) ← (entries a.value).foldlM (fun ((s, n) : State × Nat) (key, appends, w) => do
      match key with
      | some key =>
        let (key, s) ← textOf s .operand key
        let (key, s) ← s.keyOf name key
        let (value, s) ← assigned s w
        return (← put s key value appends, key.toNat?.getD 0 + 1)
      | none =>
        let (fs, s) ← allFields s [w]
        (fs.flatMap files).foldlM (fun (s, n) text => do
          return (← put s (toString n) text false, n + 1)) (s, n)) (s, start.endIndex)
    return s

def assign (files : Field → List String) (s : State) (a : Assignment) : Except Stop State := do
  if isArray a.value then assignArray files s a
  else
    let (subscript, s) ← match a.subscript with
      | none => pure (none, s)
      | some subscript => do
        let (t, s) ← textOf s .operand subscript
        pure (some t, s)
    let (text, s) ← assigned s a.value
    s.take a.name subscript a.appends text

end Expansion

end RLanguageHost.Shell
