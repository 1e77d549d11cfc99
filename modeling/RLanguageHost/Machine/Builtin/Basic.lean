import RLanguageHost.Machine.Actor

/-!
# Commands of shells

What the commands that a shell carries out itself have in common: how they read their options and
numbers, and what they say when they are called in a wrong way.
-/

namespace RLanguageHost.Machine

open Shell (Frame)

/-- How commands of the larger shell are called. -/
def usages : List (String × String) :=
  [("alias", "[-p] [name[=value] ... ]"), ("bg", "[job_spec ...]"), ("break", "[n]"),
    ("builtin", "[shell-builtin [arg ...]]"), ("caller", "[expr]"),
    ("cd", "[-L|[-P [-e]] [-@]] [dir]"), ("command", "[-pVv] command [arg ...]"),
    ("continue", "[n]"),
    ("declare", "[-aAfFgiIlnrtux] [name[=value] ...] or declare -p [-aAfFilnrtux] [name ...]"),
    ("dirs", "[-clpv] [+N] [-N]"), ("disown", "[-h] [-ar] [jobspec ... | pid ...]"),
    ("enable", "[-a] [-dnps] [-f filename] [name ...]"), ("eval", "[arg ...]"),
    ("exec", "[-cl] [-a name] [command [argument ...]] [redirection ...]"), ("exit", "[n]"),
    ("export", "[-fn] [name[=value] ...] or export -p"), ("fg", "[job_spec]"),
    ("getopts", "optstring name [arg ...]"), ("hash", "[-lr] [-p pathname] [-dt] [name ...]"),
    ("help", "[-dms] [pattern ...]"),
    ("history", "[-c] [-d offset] [n] or history -anrw [filename] or history -ps arg [arg...]"),
    ("jobs", "[-lnprs] [jobspec ...] or jobs -x command [args]"),
    ("kill",
      "[-s sigspec | -n signum | -sigspec] pid | jobspec ... or kill -l [sigspec]"),
    ("let", "arg [arg ...]"), ("local", "[option] name[=value] ..."), ("logout", "[n]"),
    ("mapfile", lines), ("popd", "[-n] [+N | -N]"), ("printf", "[-v var] format [arguments]"),
    ("pushd", "[-n] [+N | -N | dir]"), ("pwd", "[-LP]"),
    ("read", "[-ers] [-a array] [-d delim] [-i text] [-n nchars] [-N nchars] [-p prompt] "
      ++ "[-t timeout] [-u fd] [name ...]"), ("readarray", lines),
    ("readonly", "[-aAf] [name[=value] ...] or readonly -p"), ("return", "[n]"),
    ("set", "[-abefhkmnptuvxBCEHPT] [-o option-name] [--] [-] [arg ...]"), ("shift", "[n]"),
    ("shopt", "[-pqsu] [-o] [optname ...]"), ("source", "filename [arguments]"),
    (".", "filename [arguments]"), ("suspend", "[-f]"), ("trap", "[-lp] [[arg] signal_spec ...]"),
    ("type", "[-afptP] name [name ...]"),
    ("typeset", "[-aAfFgiIlnrtux] name[=value] ... or typeset -p [-aAfFilnrtux] [name ...]"),
    ("ulimit", "[-SHabcdefiklmnpqrstuvxPRT] [limit]"), ("umask", "[-p] [-S] [mode]"),
    ("unalias", "[-a] name [name ...]"), ("unset", "[-f] [-v] [-n] [name ...]"),
    ("wait", "[-fn] [-p var] [id ...]")]
where
  /-- How the commands that read lines into an array are called. -/
  lines : String :=
    "[-d delim] [-n count] [-O origin] [-s count] [-t] [-u fd] [-C callback] [-c quantum] [array]"

/-- The line that says how a command is called. -/
def usageOf (name : String) : String :=
  name ++ ": usage: " ++ name ++ ((usages.lookup name).map (" " ++ ·)).getD "" ++ "\n"

/-- The options of a call, with their values. -/
abbrev Flags := List (Char × String)

namespace Flags

def has (flags : Flags) (c : Char) : Bool :=
  flags.any (·.1 = c)

def value? (flags : Flags) (c : Char) : Option String :=
  (flags.reverse.find? (·.1 = c)).map (·.2)

inductive Fault where
  | unknown (letter : Char)
  | valueless (letter : Char)
  deriving Repr, DecidableEq

/-- Reads the letters of one argument. The answer says whether the next argument is a value. -/
def letters (plain valued : String) (flags : Flags) :
    List Char → Except Fault (Flags × Option Char)
  | [] => .ok (flags, none)
  | c :: rest =>
    if valued.toList.contains c then
      if rest.isEmpty then .ok (flags, some c) else .ok (flags ++ [(c, String.ofList rest)], none)
    else if plain.toList.contains c then letters plain valued (flags ++ [(c, "")]) rest
    else .error (.unknown c)

/-- Reads the options at the start of arguments. -/
def read (plain valued : String) (flags : Flags) :
    List String → Except Fault (Flags × List String)
  | [] => .ok (flags, [])
  | a :: rest =>
    match a.toList with
    | ['-', '-'] => .ok (flags, rest)
    | '-' :: c :: cs =>
      match letters plain valued flags (c :: cs), rest with
      | .error fault, _ => .error fault
      | .ok (flags, none), rest => read plain valued flags rest
      | .ok (flags, some c), value :: rest => read plain valued (flags ++ [(c, value)]) rest
      | .ok (_, some c), [] => .error (.valueless c)
    | _ => .ok (flags, a :: rest)

end Flags

namespace Actor

/-- The larger shell says how a command is called. -/
def showUsage (a : Actor) (name : String) : Actor :=
  a.say 2 (usageOf name) 2

/-- The larger shell says what is wrong with a call, and how the command is called. -/
def misuse (a : Actor) (line : Nat) (name text : String) : Actor :=
  a.say 2 (a.s.lead line ++ name ++ ": " ++ text ++ "\n" ++ usageOf name) 2

/-- Goes on with the options and operands of a call. -/
def withFlags (a : Actor) (line : Nat) (name plain valued : String) (arguments : List String)
    (go : Flags → List String → Actor) : Actor :=
  let letter (c : Char) : String := "-" ++ String.ofList [c]
  match Flags.read plain valued [] arguments, a.s.dialect with
  | .ok (flags, operands), _ => go flags operands
  | .error (.unknown c), .posix => a.refuse line (name ++ ": Illegal option " ++ letter c) 2
  | .error (.unknown c), .bash => a.misuse line name (letter c ++ ": invalid option")
  | .error (.valueless c), .posix =>
    a.refuse line (name ++ ": No arg for " ++ letter c ++ " option") 2
  | .error (.valueless c), .bash => a.misuse line name (letter c ++ ": option requires an argument")

/-- Arguments without two hyphens in front of them. -/
def afterHyphens (arguments : List String) : List String :=
  if arguments.head? = some "--" then arguments.drop 1 else arguments

/-- The largest number that the small shell takes as an argument. -/
def largestArgument : Int := 2147483647

/-- Goes on with the number of the first argument, or with another one without argument. The small
shell takes no negative numbers; what the larger one does, with what is said about it, when there is
no number is up to the command. -/
def withNumber (a : Actor) (line : Nat) (name : String) (arguments : List String) (otherwise : Int)
    (without : String → Actor) (go : Int → Actor) : Actor :=
  match a.choose arguments (afterHyphens arguments) with
  | [] => go otherwise
  | text :: rest =>
    match a.s.dialect, Shell.Arithmetic.decimal? text with
    | .posix, some n =>
      if 0 ≤ n ∧ n ≤ largestArgument then go n
      else a.refuse line (name ++ ": Illegal number: " ++ text) 2
    | .posix, none => a.refuse line (name ++ ": Illegal number: " ++ text) 2
    | .bash, some n =>
      if rest.isEmpty then go n else a.dropLine line (name ++ ": too many arguments")
    | .bash, none => without (name ++ ": " ++ text ++ ": numeric argument required")

/-- The name and value that an argument assigns, and whether the value is added to the old one. -/
def splitAssignment (d : Shell.Dialect) (argument : String) : String × Option String × Bool :=
  let name := argument.toList.takeWhile (· ≠ '=')
  let rest := argument.toList.drop name.length
  let appends := decide (d = .bash) && !rest.isEmpty && name.getLast? = some '+'
  (String.ofList (if appends then name.dropLast else name),
    if rest.isEmpty then none else some (String.ofList (rest.drop 1)), appends)

/-- What is said about a word that is no name of a variable. -/
def badName (a : Actor) (name word : String) : String :=
  name ++ ": " ++ a.choose (word ++ ": bad variable name")
    ("\x60" ++ word ++ "\x27: not a valid identifier")

/-- The directory that a process of the shell works in, as text. -/
def here (a : Actor) : String :=
  pathOf a.p.directory

end Actor

end RLanguageHost.Machine
