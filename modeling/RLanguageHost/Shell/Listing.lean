import RLanguageHost.Shell.Expansion

/-!
# Listings of variables

How shells show their variables, so that a shell can read the lines back.
-/

namespace RLanguageHost.Shell

namespace Listing

/-- A text between quotes as the small shell writes them: single quotes in it stand between double
quotes. -/
def smallQuoted (fuel : Nat) (cs : List Char) : String :=
  match fuel with
  | 0 => ""
  | fuel + 1 =>
    let plain := cs.takeWhile (· ≠ '\x27')
    let rest := cs.drop plain.length
    let quotes := rest.takeWhile (· = '\x27')
    let after := rest.drop quotes.length
    "\x27" ++ String.ofList plain ++ "\x27"
      ++ (if quotes.isEmpty then "" else "\"" ++ String.ofList quotes ++ "\"")
      ++ (if after.isEmpty then "" else smallQuoted fuel after)

def quoted (d : Dialect) (s : String) : String :=
  d.choose (smallQuoted (s.length + 1) s.toList) (Change.singleQuoted s)

/-- Whether the larger shell puts quotes around a value. -/
def needsQuotes (s : String) : Bool :=
  (s.toList.zipIdx).any fun (c, i) =>
    " \t\n\x27\"\\|&;()<>!\x7b\x7d*[?]^$\x60".toList.contains c || (i = 0 && (c = '#' || c = '~'))

def bashValue (s : String) : String :=
  if Change.hasControls s then Change.escaped s
  else if s = "\x27" then "\\\x27"
  else if needsQuotes s then Change.singleQuoted s
  else s

/-- The elements of an array between parentheses. -/
def elements : Elements → String
  | e =>
    let isKeyed := match e with | .keyed _ => true | .indexed _ => false
    let key (k : String) : String :=
      if isKeyed && needsQuotes k then Change.doubleQuoted k else k
    let shown := e.toList.map fun (k, v) => "[" ++ key k ++ "]=" ++ Change.doubleQuoted v
    "(" ++ " ".intercalate shown ++ (if isKeyed && !shown.isEmpty then " " else "") ++ ")"

/-- The command that declares a variable of the larger shell. -/
def declaration (v : Variable) : String :=
  let letters := Expansion.attributeLetters v
  let value :=
    match v.elements, v.value with
    | some e, _ => "=" ++ elements e
    | none, some t => "=" ++ Change.doubleQuoted t
    | none, none => ""
  "declare -" ++ (if letters = "" then "-" else letters) ++ " " ++ v.name ++ value ++ "\n"

/-- A variable after a command of the small shell. -/
def smallDeclaration (command : String) (v : Variable) : String :=
  command ++ " " ++ v.name ++ ((v.value.map fun t => "=" ++ quoted .posix t).getD "") ++ "\n"

def assignment (d : Dialect) (v : Variable) : String :=
  match v.elements, v.value with
  | some e, _ => v.name ++ "=" ++ elements e ++ "\n"
  | none, some t => v.name ++ "=" ++ d.choose (quoted d t) (bashValue t) ++ "\n"
  | none, none => ""

end Listing

namespace State

def sortedBindings (s : State) : List Variable :=
  s.bindings.mergeSort fun a b => decide (a.name ≤ b.name)

end State

end RLanguageHost.Shell
