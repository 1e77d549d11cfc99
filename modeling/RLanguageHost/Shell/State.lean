import RLanguageHost.Machine.Handle
import RLanguageHost.Machine.Signal
import RLanguageHost.Shell.Script
import RLanguageHost.Shell.Variable

/-!
# Shell states

What a shell knows while it carries out a script: parameters, variables, functions, what to do on
signals, and what is still to be done, as a stack of frames with the next thing on top.
-/

namespace RLanguageHost.Shell

structure ReadRequest where
  /-- Whether backslashes stand for themselves. -/
  raw : Bool := false
  names : List String := []
  /-- The array that takes the fields. -/
  array : Option String := none
  stream : Nat := 0
  delimiter : UInt8 := 10
  /-- The most characters to read. -/
  count : Option Nat := none
  /-- Whether the delimiter does not end what is read. -/
  exact : Bool := false
  /-- When to stop waiting. -/
  deadline : Option Nat := none
  deriving Repr, DecidableEq, Inhabited

/-- How the lines of an input are read into an array. -/
structure LinesRequest where
  array : String := "MAPFILE"
  /-- Whether the ends of lines are dropped. -/
  trims : Bool := false
  stream : Nat := 0
  delimiter : UInt8 := 10
  count : Option Nat := none
  skip : Nat := 0
  origin : Option Nat := none
  deriving Repr, DecidableEq, Inhabited

inductive Frame where
  | run (command : Command)
  /-- Goes on if the last command succeeded. -/
  | onSuccess (command : Command)
  /-- Goes on if the last command failed. -/
  | onFailure (command : Command)
  | invert
  | branch (yes no : Command)
  /-- Looks at the test of a loop. -/
  | tested (untilSuccess : Bool) (test body : Command) (status : Nat)
  /-- Tests again after the body of a loop. -/
  | again (untilSuccess : Bool) (test body : Command)
  | each (line : Nat) (name : String) (values : List String) (shown : String) (body : Command)
  /-- Looks at the number that a loop counts with. -/
  | counting (line : Nat) (test step : String) (body : Command)
  /-- Counts on after the body of a loop. -/
  | counted (line : Nat) (test step : String) (body : Command)
  /-- Looks at more arms of a choice. -/
  | arms (line : Nat) (subject : String) (arms : Command)
  /-- Leads streams back to where they led before. -/
  | restore (streams : List (Nat × Option Machine.Handle))
  /-- Returns from a function to the parameters of its caller, and to the values that the function's
  own variables have outside of it. -/
  | leave (parameters : List String) (outer : List (String × Option Variable))
  /-- Returns from commands that come from elsewhere, a file or a text, to those that asked for
  them. -/
  | leaveText (isFile : Bool) (origin : Option String) (parameters : Option (List String))
  /-- Waits for a command in the foreground. -/
  | await (pid : Nat)
  /-- Waits for the commands of a pipeline, with the statuses of those that have ended. -/
  | awaitPipeline (pids : List Nat) (statuses : List Nat)
  /-- Waits for commands in the background, and takes the status of one. -/
  | awaitAll (pids : List Nat) (statusOf : Option Nat)
  /-- Waits for one of some commands in the background. -/
  | awaitAny (pids : List Nat)
  /-- Collects the output of a command that an expansion waits for. -/
  | collect (pipe : Nat) (output : List Bytes) (pid : Nat)
  /-- Writes to a stream. -/
  | write (stream : Nat) (rest : Bytes) (status : Nat)
  /-- Reads into variables. -/
  | read (request : ReadRequest) (line : Bytes)
  /-- Reads the lines of an input into an array. -/
  | readLines (request : LinesRequest) (input : Bytes)
  /-- Looks whether the last command failed. -/
  | check
  /-- Gives variables the values back that they had before a command. -/
  | revert (earlier : List (String × Option Variable))
  /-- Takes the status from before an action on a signal. -/
  | status (status : Nat)
  /-- Goes through the lines of a script; its origin begins messages about faults in it. -/
  | script (lines : List Command) (fault : Option SyntaxFault) (origin : String)
  /-- Reads a script from the standard input, with what has been read of it from a line on. -/
  | input (line : Nat) (text : Bytes)
  | exit (status : Nat)
  /-- The shell ends by a signal. -/
  | die (signal : Nat)
  deriving Repr, Inhabited

structure Options where
  /-- Whether the shell ends when a command fails. -/
  stopsOnError : Bool := false
  /-- Whether a variable that is not set is a fault. -/
  needsValues : Bool := false
  /-- Whether patterns stand for themselves. -/
  noFiles : Bool := false
  /-- Whether commands are read and not run. -/
  noRun : Bool := false
  /-- Whether commands are shown before they run. -/
  traces : Bool := false
  /-- Whether variables are exported when they are assigned. -/
  exportsAll : Bool := false
  /-- Whether files are not emptied by redirections. -/
  keepsFiles : Bool := false
  /-- Whether a pipeline fails when any of its commands does. -/
  pipelineFails : Bool := false
  /-- Whether a pattern without files stands for nothing. -/
  nothingForNone : Bool := false
  /-- Whether patterns match names that start with a dot. -/
  hiddenFiles : Bool := false
  /-- Whether large and small letters match each other in conditions. -/
  ignoresCase : Bool := false
  /-- Options that change nothing here, as they were last told to be. -/
  idle : List (String × Bool) := []
  deriving Repr, DecidableEq, Inhabited

namespace Options

def lettersByName (d : Dialect) : List (String × Char) :=
  [("errexit", 'e'), ("noglob", 'f'), ("noexec", 'n'), ("xtrace", 'x'), ("verbose", 'v'),
    ("monitor", 'm'), ("noclobber", 'C'), ("allexport", 'a'), ("notify", 'b'), ("nounset", 'u')]
    ++ d.choose
      [("ignoreeof", 'I'), ("interactive", 'i'), ("stdin", 's'), ("vi", 'V'), ("emacs", 'E'),
        ("privileged", 'p')]
      [("braceexpand", 'B'), ("errtrace", 'E'), ("functrace", 'T'), ("hashall", 'h'),
        ("histexpand", 'H'), ("keyword", 'k'), ("onecmd", 't'), ("physical", 'P'),
        ("privileged", 'p')]

/-- The names of the options of `set`, in the order in which they are shown. -/
def setNames (d : Dialect) : List String :=
  d.choose
    ["errexit", "noglob", "ignoreeof", "interactive", "monitor", "noexec", "stdin", "xtrace",
      "verbose", "vi", "emacs", "noclobber", "allexport", "notify", "nounset", "privileged",
      "nolog", "debug"]
    ["allexport", "braceexpand", "emacs", "errexit", "errtrace", "functrace", "hashall",
      "histexpand", "history", "ignoreeof", "interactive-comments", "keyword", "monitor",
      "noclobber", "noexec", "noglob", "nolog", "notify", "nounset", "onecmd", "physical",
      "pipefail", "posix", "privileged", "verbose", "vi", "xtrace"]

/-- The names of the other options of the larger shell. -/
def shoptNames : List String :=
  ["autocd", "assoc_expand_once", "cdable_vars", "cdspell", "checkhash", "checkjobs",
    "checkwinsize", "cmdhist", "compat31", "compat32", "compat40", "compat41", "compat42",
    "compat43", "compat44", "complete_fullquote", "direxpand", "dirspell", "dotglob", "execfail",
    "expand_aliases", "extdebug", "extglob", "extquote", "failglob", "force_fignore",
    "globasciiranges", "globskipdots", "globstar", "gnu_errfmt", "histappend", "histreedit",
    "histverify", "hostcomplete", "huponexit", "inherit_errexit", "interactive_comments",
    "lastpipe", "lithist", "localvar_inherit", "localvar_unset", "login_shell", "mailwarn",
    "no_empty_cmd_completion", "nocaseglob", "nocasematch", "noexpand_translation", "nullglob",
    "patsub_replacement", "progcomp", "progcomp_alias", "promptvars", "restricted_shell",
    "shift_verbose", "sourcepath", "varredir_close", "xpg_echo"]

/-- The options that are on from the start, of those that change nothing here. -/
def initiallyOn : List String :=
  ["braceexpand", "hashall", "interactive-comments", "checkwinsize", "cmdhist",
    "complete_fullquote", "extquote", "force_fignore", "globasciiranges", "globskipdots",
    "hostcomplete", "interactive_comments", "patsub_replacement", "progcomp", "promptvars",
    "sourcepath"]

def isOn (o : Options) (name : String) : Bool :=
  match name with
  | "errexit" => o.stopsOnError
  | "nounset" => o.needsValues
  | "noglob" => o.noFiles
  | "noexec" => o.noRun
  | "xtrace" => o.traces
  | "allexport" => o.exportsAll
  | "noclobber" => o.keepsFiles
  | "pipefail" => o.pipelineFails
  | "nullglob" => o.nothingForNone
  | "dotglob" => o.hiddenFiles
  | "nocasematch" => o.ignoresCase
  | _ => (o.idle.lookup name).getD (initiallyOn.contains name)

def setOn (o : Options) (name : String) (on : Bool) : Options :=
  match name with
  | "errexit" => { o with stopsOnError := on }
  | "nounset" => { o with needsValues := on }
  | "noglob" => { o with noFiles := on }
  | "noexec" => { o with noRun := on }
  | "xtrace" => { o with traces := on }
  | "allexport" => { o with exportsAll := on }
  | "noclobber" => { o with keepsFiles := on }
  | "pipefail" => { o with pipelineFails := on }
  | "nullglob" => { o with nothingForNone := on }
  | "dotglob" => { o with hiddenFiles := on }
  | "nocasematch" => { o with ignoresCase := on }
  | _ => { o with idle := (name, on) :: o.idle.filter (·.1 ≠ name) }

def setLetter (o : Options) (d : Dialect) (c : Char) (on : Bool) : Options :=
  match (lettersByName d).find? (·.2 = c) with
  | some (name, _) => o.setOn name on
  | none => o

def letters (d : Dialect) : List Char :=
  (lettersByName d).map (·.2)

def setNamed? (o : Options) (d : Dialect) (name : String) (on : Bool) : Option Options :=
  if (setNames d).contains name then some (o.setOn name on) else none

/-- The options with another one of the larger shell on or off. -/
def setShopt? (o : Options) (name : String) (on : Bool) : Option Options :=
  if shoptNames.contains name then some (o.setOn name on) else none

end Options

structure State where
  dialect : Dialect
  /-- The name under which messages are reported. -/
  name : String
  /-- The number of the process that the script calls its own. -/
  self : Nat
  parameters : List String := []
  bindings : List Variable := []
  /-- What the shell has got in its environment that is no variable. -/
  foreign : List String := []
  functions : List (String × Command) := []
  /-- What to do on signals; signal zero is the end of the shell. -/
  actions : List (Nat × String) := []
  /-- The actions of the shell that this one is a part of, as long as it sets none itself. -/
  outerActions : List (Nat × String) := []
  /-- What to do when a command fails. -/
  errorAction : Option String := none
  status : Nat := 0
  /-- What expansions have waited for: texts to put in, in order, with the statuses of the commands
  that wrote them. -/
  received : List (String × Option Nat) := []
  /-- The status of the last command whose output was put in. -/
  outputStatus : Option Nat := none
  lastBackground : Option Nat := none
  background : List Nat := []
  options : Options := {}
  /-- Whether the last command may take the place of the shell. -/
  yieldsLast : Bool := false
  /-- Whether the shell runs a part of a pipeline. -/
  isStage : Bool := false
  /-- Whether the script is an argument. -/
  isArgument : Bool := false
  /-- Where the commands come from, if not from the script itself: a file, or in the small shell
  also the command that carries them out. -/
  origin : Option String := none
  /-- The functions that the shell is in, the innermost first. -/
  callers : List String := []
  /-- The line of the command that is carried out. -/
  line : Nat := 1
  pipelineStatuses : List Nat := [0]
  /-- How far into a group of options `getopts` has read. -/
  optionPlace : Nat := 0
  /-- Other names of commands. -/
  aliases : List (String × String) := []
  /-- The programs that were run, with their paths and how often. -/
  remembered : List (String × String × Nat) := []
  /-- What new files may not be used for. -/
  mask : Nat := 18
  /-- The directories to go back to. -/
  directories : List String := []
  /-- Whether the shell carries out a part of the script of another one. -/
  isSubshell : Bool := false
  /-- Whether that shell looks at the status. -/
  isTested : Bool := false
  /-- How many shells away the script is whose output this one writes. -/
  depth : Nat := 0
  /-- What is shown of conditions that were evaluated, the last one first. -/
  notes : List String := []
  frames : List Frame := []
  deriving Repr, Inhabited

namespace State

def binding? (s : State) (name : String) : Option Variable :=
  s.bindings.find? (·.name = name)

/-- Puts a variable in the place of the one with its name, or after all others. -/
def bind (s : State) (v : Variable) : State :=
  { s with bindings :=
      if s.bindings.any (·.name = v.name) then
        s.bindings.map fun o => if o.name = v.name then v else o
      else s.bindings ++ [v] }

def bindingOrNew (s : State) (name : String) : Variable :=
  (s.binding? name).getD { name }

/-- Gives a variable a value, whatever is particular about it. -/
def assign (s : State) (name value : String) : State :=
  let v := s.bindingOrNew name
  let v :=
    match v.elements with
    | some e => { v with elements := some (e.insert "0" value) }
    | none => { v with value := some value }
  let exported := v.attributes.exported || s.options.exportsAll
  let s := if name = "OPTIND" then { s with optionPlace := 0 } else s
  s.bind { v with attributes := { v.attributes with exported } }

/-- Gives a variable the elements of an array. -/
def assignElements (s : State) (name : String) (e : Elements) : State :=
  s.bind { s.bindingOrNew name with elements := some e, value := none }

/-- Takes a variable away. -/
def forget (s : State) (name : String) : State :=
  { s with bindings := s.bindings.filter (·.name ≠ name) }

/-- Gives variables the values back that they had before. -/
def restore (s : State) (earlier : List (String × Option Variable)) : State :=
  earlier.foldl (fun s (name, old) =>
    match old with
    | some v => s.bind v
    | none => s.forget name) s

def smallBucket (name : String) : Nat :=
  ((name.toList.head?.map (·.toNat * 16)).getD 0
    + name.toList.foldl (fun n c => n + c.toNat) 0) % 39

/-- The environment of a command: what the shell itself has got that is no variable, and the
variables that the command gets, in the order of the shell's table. The larger shell keeps the ones
that are set for the command alone in a small table of their own, which comes first, and then come
those of each function that is being carried out. -/
def environment (s : State) (alone : List String) : List String :=
  let given := s.bindings.filter fun v =>
    v.attributes.exported && v.elements.isNone && v.value.isSome
  let entries (vs : List Variable) : List String :=
    vs.map fun v => v.name ++ "=" ++ v.value.getD ""
  match s.dialect with
  | .posix => entries (given.mergeSort fun a b => smallBucket a.name ≤ smallBucket b.name)
  | .bash =>
    let (tables, others) := (alone :: s.frames.filterMap ownNames).foldl (fun (shown, others) own =>
      let (first, others) := others.partition fun v => own.contains v.name
      (shown ++ first.reverse.mergeSort fun a b =>
        Elements.bucket a.name % 4 ≤ Elements.bucket b.name % 4, others)) ([], given)
    let others := others.reverse.mergeSort fun a b =>
      Elements.bucket a.name ≤ Elements.bucket b.name
    s.foreign ++ entries tables ++ entries others
where
  /-- The names of the variables that a frame gives values back to. -/
  ownNames : Frame → Option (List String)
    | .leave _ outer => some (outer.map (·.1))
    | .revert earlier => some (earlier.map (·.1))
    | _ => none

/-- The characters that separate fields. -/
def separators (s : State) : String :=
  ((s.binding? "IFS").bind (·.text?)).getD " \t\n"

/-- Texts after each other, with the first separator between them. -/
def join (s : State) (texts : List String) : String :=
  ((s.separators.toList.head?.map fun c => String.ofList [c]).getD "").intercalate texts

/-- The text of the parameters after each other. -/
def joined (s : State) : String :=
  s.join s.parameters

def optionLetters (s : State) : String :=
  let on (letters : String) : List Char :=
    letters.toList.filter fun c =>
      match (Options.lettersByName s.dialect).find? (·.2 = c) with
      | some (name, _) => s.options.isOn name
      | none => false
  match s.dialect with
  | .posix => String.ofList (on "pubaCEVvxsnmIfe")
  | .bash =>
    String.ofList (on "abefhkmnptuvxBCEHPT" ++ if s.isArgument then ['c'] else [])

/-- The elements of an array that the shell keeps itself. -/
def ownElements? (s : State) (name : String) : Option (List String) :=
  match s.dialect, name with
  | .bash, "PIPESTATUS" => some (s.pipelineStatuses.map toString)
  | .bash, "FUNCNAME" =>
    some (if s.callers.isEmpty then [] else s.callers ++ (if s.isArgument then [] else ["main"]))
  | _, _ => none

/-- The variable that a name means, through references. -/
def resolve (s : State) (name : String) : String :=
  match s.binding? name with
  | some v => if v.attributes.reference then v.value.getD name else name
  | none => name

def value? (s : State) (name : String) : Option String :=
  match name with
  | "@" | "*" => if s.parameters.isEmpty then none else some s.joined
  | "#" => some (toString s.parameters.length)
  | "?" => some (toString s.status)
  | "$" => some (toString s.self)
  | "!" => s.lastBackground.map toString
  | "-" => some s.optionLetters
  | "0" => some s.name
  | "SHELLOPTS" => s.dialect.choose ((s.binding? name).bind (·.text?))
      (some (":".intercalate ((Options.setNames .bash).filter s.options.isOn)))
  | "BASHOPTS" => s.dialect.choose ((s.binding? name).bind (·.text?))
      (some (":".intercalate (Options.shoptNames.filter s.options.isOn)))
  | "LINENO" => s.dialect.choose none (some (toString s.line))
  | "BASH_SUBSHELL" => s.dialect.choose none (some (if s.isSubshell then "1" else "0"))
  | _ =>
    match name.toNat?, s.ownElements? name with
    | some n, _ => if n = 0 then some s.name else s.parameters[n - 1]?
    | none, some elements => elements.head?
    | none, none => (s.binding? (s.resolve name)).bind (·.text?)

/-- The elements of an array with their keys. -/
def pairs (s : State) (name : String) : List (String × String) :=
  match s.ownElements? name with
  | some elements => elements.zipIdx.map fun e => (toString e.2, e.1)
  | none => ((s.binding? (s.resolve name)).map (·.pairs)).getD []

/-- Whether a variable is an array under names. -/
def isKeyed (s : State) (name : String) : Bool :=
  match (s.binding? (s.resolve name)).bind (·.elements) with
  | some (.keyed _) => true
  | _ => false

/-- Puts something on top of what is to be done. -/
def push (s : State) (frame : Frame) : State :=
  { s with frames := frame :: s.frames }

/-- The signal that a name or number means. The larger shell knows the long names too. -/
def signal? (s : State) (name : String) : Option Machine.Signal :=
  match s.dialect with
  | .posix => Machine.Signal.ofText? name
  | .bash =>
    Machine.Signal.ofText? (if name.toUpper.startsWith "SIG" then (name.drop 3).toString else name)

/-- The name of what a message is about: within functions of a script that is an argument, the
larger shell speaks of its environment. -/
def speaker (s : State) : String :=
  match s.dialect, s.origin with
  | .posix, _ => s.name
  | .bash, some origin => origin
  | .bash, none => if s.isArgument && !s.callers.isEmpty then "environment" else s.name

/-- How a command of the shell begins a message about a line. -/
def lead (s : State) (line : Nat) : String :=
  s.speaker ++ s.dialect.choose ": " ": line " ++ toString line ++ ": "

/-- How the shell begins a message of its own about a line. The small shell says where the commands
come from after the line. -/
def ownLead (s : State) (line : Nat) : String :=
  s.lead line ++ s.dialect.choose ((s.origin.map (· ++ ": ")).getD "") ""

end State

end RLanguageHost.Shell
