import RLanguageHost.Machine.Builtin.Basic
import RLanguageHost.Machine.Trace

/-!
# Commands on variables

The commands that set the options and parameters of a shell, declare variables and take them away,
and give commands other names.
-/

namespace RLanguageHost.Machine

open Shell (Frame Variable)

namespace Actor

/-- Works on operands in turn. A fault ends the small shell's command; the larger one goes on, and
what it has to say comes together at the end. -/
def eachOperand (a : Actor) (line : Nat) (work : Shell.State → String → Except String Shell.State)
    (text : String) : List String → Actor
  | [] => if text = "" then a.done 0 else a.say 2 text 1
  | x :: rest =>
    match work a.s x, a.s.dialect with
    | .ok s, _ => eachOperand { a with s } line work text rest
    | .error fault, .posix => a.refuse line fault 2
    | .error fault, .bash =>
      eachOperand a line work (text ++ a.s.lead line ++ fault ++ "\n") rest

/-- The text of what is wrong with an assignment. -/
def assigned (r : Except Shell.Stop Shell.State) : Except String Shell.State :=
  r.mapError (·.text)

/-- An option with whether it is on. -/
def optionLine (name : String) (on : Bool) (width : Nat) (gap : String) : String :=
  name ++ String.ofList (List.replicate (width - name.length) ' ') ++ gap
    ++ (if on then "on" else "off") ++ "\n"

/-- The options of `set`, with whether they are on, or as commands. -/
def listOptions (a : Actor) (asCommands : Bool) : String :=
  let names := Shell.Options.setNames a.s.dialect
  if asCommands then
    String.join (names.map fun n =>
      "set " ++ (if a.s.options.isOn n then "-" else "+") ++ "o " ++ n ++ "\n")
  else
    a.choose "Current option settings\n" ""
      ++ String.join (names.map fun n =>
        optionLine n (a.s.options.isOn n) (a.choose 16 15) (a.choose "" "\t"))

/-- The parameters of a file stay when the file is left. -/
def keepParameters : List Frame → List Frame
  | [] => []
  | .leaveText true origin _ :: rest => .leaveText true origin none :: rest
  | f :: rest => f :: keepParameters rest

/-- The parameters are replaced. -/
def setParameters (a : Actor) (parameters : List String) : Actor :=
  let frames := if a.s.callers.isEmpty then keepParameters a.s.frames else a.s.frames
  { a with s := { a.s with parameters, frames } }.done 0

def setOptions (a : Actor) (line : Nat) : List String → Actor
  | [] => a.done 0
  | x :: rest =>
    match x.toList with
    | ['-'] =>
      let a := a.withOptions ((a.s.options.setOn "xtrace" false).setOn "verbose" false)
      if rest.isEmpty then a.done 0 else a.setParameters rest
    | ['-', '-'] => a.setParameters rest
    | ['+'] => setOptions a line rest
    | sign :: letters =>
      if sign ≠ '-' && sign ≠ '+' then a.setParameters (x :: rest)
      else
        let on := sign = '-'
        let known := 'o' :: Shell.Options.letters a.s.dialect
        match letters.find? fun c => !known.contains c with
        | some c =>
          let shown := String.ofList ['-', c]
          match a.s.dialect with
          | .posix => a.refuse line ("set: Illegal option " ++ shown) 2
          | .bash => a.misuse line "set" (String.ofList [sign, c] ++ ": invalid option")
        | none =>
          let refused := a.s.dialect = .posix && on && letters.contains 'm'
          let letters := if refused then letters.filter (· ≠ 'm') else letters
          let a := a.withOptions (letters.foldl (fun o c => o.setLetter a.s.dialect c on)
            a.s.options)
          let a := if refused then
              a.note 2 (a.s.lead line ++ "set: can\x27t access tty; job control turned off\n")
            else a
          if !letters.contains 'o' then setOptions a line rest
          else
            match rest with
            | [] => a.print (a.listOptions !on)
            | name :: rest =>
              match a.s.options.setNamed? a.s.dialect name on, a.s.dialect with
              | some options, _ => setOptions (a.withOptions options) line rest
              | none, .posix => a.refuse line ("set: Illegal option -o " ++ name) 2
              | none, .bash => a.complain line ("set: " ++ name ++ ": invalid option name") 2
    | [] => a.setParameters (x :: rest)

def set (a : Actor) (line : Nat) (arguments : List String) : Actor :=
  if arguments.isEmpty then
    a.print (String.join (a.s.sortedBindings.map (Shell.Listing.assignment a.s.dialect)))
  else a.setOptions line arguments

def shopt (a : Actor) (line : Nat) (arguments : List String) : Actor :=
  a.withFlags line "shopt" "psuqo" "" arguments fun flags names =>
    let ofSet := flags.has 'o'
    let all := if ofSet then Shell.Options.setNames .bash else Shell.Options.shoptNames
    let change? (o : Shell.Options) (name : String) (on : Bool) : Option Shell.Options :=
      if ofSet then o.setNamed? .bash name on else o.setShopt? name on
    let unknown (name : String) : String :=
      "shopt: " ++ name ++ (if ofSet then ": invalid option name"
        else ": invalid shell option name")
    let shown (name : String) : String :=
      let on := a.s.options.isOn name
      if flags.has 'p' then
        (if ofSet then "set " ++ (if on then "-o " else "+o ")
          else "shopt " ++ (if on then "-s " else "-u ")) ++ name ++ "\n"
      else optionLine name on 15 "\t"
    let sets := flags.has 's' || flags.has 'u'
    if names.isEmpty then
      let wanted := all.filter fun n =>
        !sets || (a.s.options.isOn n = flags.has 's')
      a.print (if flags.has 'q' then "" else String.join (wanted.map shown))
    else if sets then
      a.eachOperand line (fun s name =>
        match change? s.options name (flags.has 's') with
        | some options => .ok { s with options }
        | none => .error (unknown name)) "" names
    else
      match names.filter fun n => !all.contains n with
      | [] =>
        let status := if names.all a.s.options.isOn then 0 else 1
        if flags.has 'q' then a.done status
        else a.say 1 (String.join (names.map shown)) status
      | bad =>
        a.say 2 (String.join (bad.map fun n => a.s.lead line ++ unknown n ++ "\n")) 1

def withAttributes (s : Shell.State) (name : String) (f : Shell.Attributes → Shell.Attributes) :
    Shell.State :=
  let v := s.bindingOrNew name
  s.bind { v with attributes := f v.attributes }

/-- The variables with an attribute, as commands that declare them. -/
def listMarked (a : Actor) (command : String) (marked : Variable → Bool) : String :=
  let all := a.s.sortedBindings.filter marked
  match a.s.dialect with
  | .posix => String.join (all.map (Shell.Listing.smallDeclaration command))
  | .bash => String.join (all.map Shell.Listing.declaration)

/-- `export` and `readonly`. Values that are arrays come apart from the other arguments. -/
def markNames (a : Actor) (line : Nat) (command : String) (arguments : List String)
    (arrays : List Shell.Assignment) (files : Shell.Field → List String) : Actor :=
  let exports := command = "export"
  a.withFlags line command (a.choose "p" (if exports then "fnp" else "aAfp")) "" arguments
    fun flags names =>
      if names.isEmpty && !flags.has 'f' then
        a.print (a.listMarked command fun v =>
          if exports then v.attributes.exported else v.attributes.constant)
      else
        let a := names.foldl (fun (a : Actor) x =>
          match a.s.dialect, splitAssignment a.s.dialect x with
          | .bash, (name, some value, appends) =>
            a.traceCommand [(name ++ (if appends then "+" else ""), value)] []
          | _, _ => a) a
        a.eachOperand line (fun s x =>
          let (name, value, appends) := splitAssignment s.dialect x
          if flags.has 'f' then
            if s.functions.any (·.1 = name) then .ok s
            else .error (command ++ ": " ++ name ++ ": not a function")
          else if !Shell.isName name then
            .error (a.badName command (a.choose name x))
          else do
            let lead := s.dialect.choose (command ++ ": ") ""
            let s ← match value, arrays.find? (·.name = name) with
              | some v, _ => (assigned (s.take name none appends v)).mapError (lead ++ ·)
              | none, some array => assigned (Shell.Expansion.assign files s array)
              | none, none => .ok s
            return withAttributes s name fun t =>
              if exports then { t with exported := !flags.has 'n' }
              else { t with constant := true }) "" names

/-- Remembers the value that a variable has outside of the current function, if the shell is in
one. -/
def remember (name : String) (old : Option Variable) : List Frame → Option (List Frame)
  | [] => none
  | .leave parameters outer :: rest =>
    let outer := if outer.any (·.1 = name) then outer else (name, old) :: outer
    some (.leave parameters outer :: rest)
  | f :: rest => (remember name old rest).map (f :: ·)

/-- The names that belong to the current function. -/
def ownNames (frames : List Frame) : List String :=
  (frames.findSome? fun f =>
    match f with
    | .leave _ outer => some (outer.map (·.1))
    | _ => none).getD []

/-- The state with a variable that belongs to the current function; none outside of functions. In
the larger shell such a variable has no value at first, but is exported if the other one is. -/
def localised? (s : Shell.State) (name : String) : Option Shell.State := do
  let old := s.binding? name
  let isNew := !(ownNames s.frames).contains name
  let s := { s with frames := ← remember name old s.frames }
  let exported := old.any (·.attributes.exported)
  return if isNew && s.dialect = .bash then s.bind { name, attributes := { exported } } else s

/-- `local` of the small shell. -/
def makeLocal (a : Actor) (line : Nat) (arguments : List String) : Actor :=
  a.eachOperand line (fun s x =>
    let (name, value, _) := splitAssignment .posix x
    match localised? s name with
    | none => .error "local: not in a function"
    | some s' =>
      if name = "-" then .ok s
      else if !Shell.isName name then .error (a.badName "local" name)
      else
        match value with
        | some v => (assigned (s'.take name none false v)).mapError ("local: " ++ ·)
        | none => .ok s') "" arguments

/-- The letters of `declare`, with whether they give or take. -/
abbrev Marks := List (Char × Bool)

/-- Reads the options of `declare`. -/
def readMarks (marks : Marks) : List String → Except String (Marks × List String)
  | [] => .ok (marks, [])
  | x :: rest =>
    match x.toList with
    | ['-', '-'] => .ok (marks, rest)
    | sign :: c :: cs =>
      if sign = '-' || sign = '+' then
        match (c :: cs).find? fun d => !"aAfFgiIlnprtuxc".toList.contains d with
        | some d => .error (String.ofList [sign, d])
        | none => readMarks (marks ++ (c :: cs).map fun d => (d, decide (sign = '-'))) rest
      else .ok (marks, x :: rest)
    | _ => .ok (marks, x :: rest)

/-- The attributes with what letters give or take. -/
def Marks.apply (marks : Marks) (t : Shell.Attributes) : Shell.Attributes :=
  marks.foldl (fun t (c, on) =>
    match c with
    | 'i' => { t with integer := on }
    | 'l' => { t with lower := on, upper := t.upper && !on }
    | 'u' => { t with upper := on, lower := t.lower && !on }
    | 'n' => { t with reference := on }
    | 'x' => { t with exported := on }
    | _ => t) t

def declareOne (command : String) (marks : Marks) (arrays : List Shell.Assignment)
    (files : Shell.Field → List String) (inFunction : Bool) (s : Shell.State) (x : String) :
    Except String Shell.State := do
  let (name, value, appends) := splitAssignment .bash x
  -- a subscript after the name makes it an array
  let plain := String.ofList (name.toList.takeWhile (· ≠ '['))
  if !Shell.isName plain then
    throw (command ++ ": \x60" ++ x ++ "\x27: not a valid identifier")
  let s := if inFunction && !marks.contains ('g', true) then (localised? s plain).getD s else s
  let v := s.bindingOrNew plain
  if v.attributes.constant && (value.isSome || marks.contains ('r', false)) then
    throw (command ++ ": " ++ plain ++ ": readonly variable")
  let elements :=
    if marks.contains ('A', true) then some (v.elements.getD (.keyed []))
    else if marks.contains ('a', true) || plain ≠ name then some v.asElements
    else v.elements
  let s := s.bind { v with elements, value := if elements.isSome then none else v.value,
                           attributes := Marks.apply (marks.filter (·.1 ≠ 'n')) v.attributes }
  let s ← match value, arrays.find? (·.name = plain) with
    | some t, _ =>
      let subscript := if plain = name then none
        else some (String.ofList ((name.toList.drop (plain.length + 1)).dropLast))
      assigned (s.take plain subscript appends t)
    | none, some array => assigned (Shell.Expansion.assign files s array)
    | none, none => .ok s
  let s := withAttributes s plain fun t => Marks.apply (marks.filter (·.1 = 'n')) t
  return if marks.contains ('r', true) then
    withAttributes s plain fun t => { t with constant := true } else s

/-- `declare`, `typeset` and `local` of the larger shell. -/
def declareNames (a : Actor) (line : Nat) (command : String) (arguments : List String)
    (arrays : List Shell.Assignment) (files : Shell.Field → List String) : Actor :=
  let inFunction := (remember "" none a.s.frames).isSome
  if command = "local" && !inFunction then
    a.complain line "local: can only be used in a function" 1
  else
    match readMarks [] arguments with
    | .error option => a.misuse line command (option ++ ": invalid option")
    | .ok (marks, names) =>
      let shows := marks.contains ('p', true)
      let onFunctions := marks.any fun m => m.1 = 'f' || m.1 = 'F'
      if onFunctions then
        let known := (a.s.functions.map (·.1)).mergeSort (· ≤ ·)
        if names.isEmpty then
          a.print (String.join (known.map fun n => "declare -f " ++ n ++ "\n"))
        else
          a.say 1 (String.join ((names.filter known.contains).map (· ++ "\n")))
            (if names.all known.contains then 0 else 1)
      else if names.isEmpty then
        let wanted := a.s.sortedBindings.filter fun v =>
          let letters := Shell.Expansion.attributeLetters v
          marks.all fun m => m.1 = 'p' || letters.contains m.1
        if command = "local" then
          let own := ownNames a.s.frames
          a.print (String.join ((wanted.filter fun v => own.contains v.name).map
            Shell.Listing.declaration))
        else if shows || !marks.isEmpty then
          a.print (String.join (wanted.map Shell.Listing.declaration))
        else a.print (String.join (wanted.map (Shell.Listing.assignment .bash)))
      else if shows then
        let missing := names.filter fun n => (a.s.binding? n).isNone
        let found := names.filterMap a.s.binding?
        let text := String.join (missing.map fun n =>
          a.s.lead line ++ command ++ ": " ++ n ++ ": not found\n")
        let status := if missing.isEmpty then 0 else 1
        let a := if text = "" then a else a.say 2 text status
        a.say 1 (String.join (found.map Shell.Listing.declaration)) status
      else a.eachOperand line (declareOne command marks arrays files inFunction) "" names

/-- `unset`. Without an option the larger shell takes a function away if there is no variable. -/
def unset (a : Actor) (line : Nat) (arguments : List String) : Actor :=
  a.withFlags line "unset" (a.choose "vf" "fvn") "" arguments fun flags names =>
    a.eachOperand line (fun s x =>
      let name := String.ofList (x.toList.takeWhile (· ≠ '['))
      let subscript := (x.toList.drop (name.length + 1)).dropLast
      let forgetFunction (s : Shell.State) : Shell.State :=
        { s with functions := s.functions.filter (·.1 ≠ x) }
      let meant := if flags.has 'n' then name else s.resolve name
      if flags.has 'f' then .ok (forgetFunction s)
      else if s.isConstant name then
        .error ("unset: " ++ x ++ a.choose ": is read only" ": cannot unset: readonly variable")
      else
        match s.dialect with
        | .posix => if Shell.isName x then .ok (s.forget x) else .error (a.badName "unset" x)
        | .bash =>
          if name ≠ x && subscript.isEmpty = false then
            let key := String.ofList subscript
            match s.binding? meant with
            | none => .ok s
            | some v =>
              if key = "@" || key = "*" then .ok (s.forget meant)
              else
                match v.elements, s.keyOf meant key with
                | some e, .ok (k, s) => .ok (s.bind { v with elements := some (e.erase k) })
                | none, .ok ("0", s) => .ok (s.forget meant)
                | _, .ok (_, s) => .ok s
                | _, .error x => .error ("unset: " ++ x.text)
          else if (s.binding? meant).isSome || flags.has 'v' then .ok (s.forget meant)
          else .ok (forgetFunction s)) "" names

/-- `let`. -/
def evaluateAll (a : Actor) (line : Nat) (arguments : List String) : Actor :=
  match afterHyphens arguments with
  | [] => a.complain line "let: expression expected" 1
  | expressions =>
    let result := expressions.foldlM (fun ((_, s) : Int64 × Shell.State) x => s.number x)
      ((0 : Int64), a.s)
    match result with
    | .ok (n, s) => { a with s }.done (if n == 0 then 1 else 0)
    | .error x => a.complain line ("let: " ++ x.text) 1

/-- `alias`. -/
def nameCommands (a : Actor) (line : Nat) (arguments : List String) : Actor :=
  let shown (x : String × String) : String :=
    a.choose "" "alias " ++ x.1 ++ "=" ++ Shell.Listing.quoted a.s.dialect x.2 ++ "\n"
  let sorted := a.s.aliases.mergeSort fun x y => decide (x.1 ≤ y.1)
  let work (names : List String) : Actor :=
    let (s, out, faults) := names.foldl (fun ((s, out, faults) : Shell.State × String × String) x =>
      let name := String.ofList (x.toList.takeWhile (· ≠ '='))
      if name ≠ "" && name ≠ x then
        let value := (x.drop (name.length + 1)).toString
        ({ s with aliases := s.aliases.filter (·.1 ≠ name) ++ [(name, value)] }, out, faults)
      else
        match s.aliases.lookup x with
        | some v => (s, out ++ shown (x, v), faults)
        | none =>
          (s, out, faults ++ a.choose ("alias: " ++ x ++ " not found\n")
            (a.s.lead line ++ "alias: " ++ x ++ ": not found\n"))) (a.s, "", "")
    let status := if faults = "" then 0 else 1
    ({ a with s }.say 2 faults status).say 1 out status
  match a.s.dialect with
  | .posix => if arguments.isEmpty then a.print (String.join (sorted.map shown)) else work arguments
  | .bash =>
    a.withFlags line "alias" "p" "" arguments fun flags names =>
      if flags.has 'p' || names.isEmpty then a.print (String.join (sorted.map shown))
      else work names

/-- `unalias`. -/
def unnameCommands (a : Actor) (line : Nat) (arguments : List String) : Actor :=
  a.withFlags line "unalias" "a" "" arguments fun flags names =>
    if flags.has 'a' then { a with s := { a.s with aliases := [] } }.done 0
    else if names.isEmpty then a.choose (a.done 0) (a.showUsage "unalias")
    else
      let missing := names.filter fun n => !a.s.aliases.any (·.1 = n)
      let aliases := a.s.aliases.filter fun x => !names.contains x.1
      { a with s := { a.s with aliases } }.say 2
        (String.join (missing.map fun n => a.choose ("unalias: " ++ n ++ " not found\n")
          (a.s.lead line ++ "unalias: " ++ n ++ ": not found\n")))
        (if missing.isEmpty then 0 else 1)

/-- What `getopts` finds. -/
structure FoundOption where
  /-- The letter, or a sign for what is wrong. -/
  name : String
  value : Option String := none
  /-- The number of the next argument, and how far into a group it is. -/
  index : Nat
  place : Nat := 0
  fault : Option String := none
  isEnd : Bool := false

def findOption (d : Shell.Dialect) (letters : String) (arguments : List String)
    (index place : Nat) : FoundOption :=
  let silent := letters.startsWith ":"
  let known := if silent then letters.toList.drop 1 else letters.toList
  let word := ((arguments[index - 1]?).getD "").toList
  let place := if place < word.length then place else 0
  if place = 0 && (word.head? ≠ some '-' || word.length < 2) then
    { name := "?", index, isEnd := true }
  else if place = 0 && word = ['-', '-'] then { name := "?", index := index + 1, isEnd := true }
  else
    let place := max place 1
    let c := (word[place]?).getD '?'
    let letter := String.ofList [c]
    let rest := word.drop (place + 1)
    let (index', place') := if rest.isEmpty then (index + 1, 0) else (index, place + 1)
    let after := known.dropWhile (· ≠ c)
    if c = ':' || after.isEmpty then
      { name := "?", value := if silent then some letter else none, index := index'
        place := place'
        fault := if silent then none
          else some (d.choose ("Illegal option -" ++ letter) ("illegal option -- " ++ letter)) }
    else if after[1]? ≠ some ':' then
      { name := letter, value := d.choose (some "") none, index := index', place := place' }
    else if !rest.isEmpty then
      { name := letter, value := some (String.ofList rest), index := index + 1 }
    else
      match arguments[index]? with
      | some value => { name := letter, value := some value, index := index + 2 }
      | none =>
        { name := if silent then ":" else "?", value := if silent then some letter else none
          index := index + 1
          fault := if silent then none
            else some (d.choose ("No arg for -" ++ letter ++ " option")
              ("option requires an argument -- " ++ letter)) }

/-- `getopts`. -/
def nextOption (a : Actor) (line : Nat) (arguments : List String) : Actor :=
  match a.choose arguments (afterHyphens arguments) with
  | [] | [_] =>
    a.choose (a.complain line "getopts: Usage: getopts optstring var [arg...]" 2)
      (a.showUsage "getopts")
  | letters :: name :: rest =>
    let words := if rest.isEmpty then a.s.parameters else rest
    let given := ((a.s.value? "OPTIND").bind String.toNat?).getD 1
    -- within a group the small shell has already counted the argument
    let index := if a.s.optionPlace ≠ 0 && a.s.dialect = .posix then given - 1 else given
    let found := findOption a.s.dialect letters words (max index 1) a.s.optionPlace
    if !Shell.isName name then
      a.complain line (a.badName "getopts" name) (a.choose 2 1)
    else
      let shownIndex :=
        if found.place ≠ 0 && a.s.dialect = .posix then found.index + 1 else found.index
      let s := a.s.assign "OPTIND" (toString shownIndex)
      let s :=
        match found.value with
        | some v => s.assign "OPTARG" v
        | none => if found.isEnd then s else s.forget "OPTARG"
      let s := { s.assign name found.name with optionPlace := found.place }
      let status := if found.isEnd then 1 else 0
      let quiet := a.s.dialect = .bash && a.s.value? "OPTERR" = some "0"
      match found.fault, quiet with
      | some text, false =>
        { a with s }.say 2 (a.choose "" (a.s.name ++ ": ") ++ text ++ "\n") status
      | _, _ => { a with s }.done status

end Actor

end RLanguageHost.Machine
