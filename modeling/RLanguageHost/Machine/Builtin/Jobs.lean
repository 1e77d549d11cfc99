import RLanguageHost.Machine.Builtin.Basic
import RLanguageHost.Shell.Listing

/-!
# Commands on processes and signals

The commands that say what the shell does on signals, send signals, and wait for commands in the
background, and those on what a process may use.
-/

namespace RLanguageHost.Machine

open Shell (Frame)

namespace Signal

/-- The name of a signal as the shells know it, for the numbers that have one. -/
def name? (signal : Signal) : Option String :=
  if 34 < signal && signal < 50 then some ("RTMIN+" ++ toString (signal - 34))
  else if 50 ≤ signal && signal < 64 then some ("RTMAX-" ++ toString (64 - signal))
  else (names.find? (·.2 = signal)).map (·.1)

def largest : Signal := 64

end Signal

namespace Actor

/-- What the shell does on a signal from now on: its usual effect, nothing, or an action. -/
def setAction (a : Actor) (action : Option String) (signal : Signal) : Actor :=
  let actions := a.s.actions.filter (·.1 ≠ signal)
  let others := a.p.ignored.filter (· ≠ signal)
  let ignored := if action = some "" && signal ≠ 0 then signal :: others else others
  { a with
    s := { a.s with actions := action.toList.map (signal, ·) ++ actions, outerActions := [] }
    p := { a.p with ignored } }

/-- What an action is set for. -/
inductive Cause where
  | signal (signal : Signal)
  /-- A command fails. -/
  | failure
  /-- Something that does not happen here. -/
  | idle
  deriving Repr, DecidableEq

def causeOf? (s : Shell.State) (word : String) : Option Cause :=
  match s.dialect, word.toUpper with
  | _, "EXIT" => some (.signal 0)
  | .bash, "ERR" => some .failure
  | .bash, "DEBUG" | .bash, "RETURN" => some .idle
  | _, _ => (s.signal? word).map .signal

/-- The actions that are set, as commands that set them. -/
def listActions (a : Actor) (wanted : Cause → Bool) : String :=
  let nameOf (signal : Signal) : String :=
    if signal = 0 then "EXIT"
    else a.choose "" "SIG" ++ (signal.name?).getD (toString signal)
  let shown (action name : String) : String :=
    "trap -- " ++ Shell.Listing.quoted a.s.dialect action ++ " " ++ name ++ "\n"
  let sorted := (a.s.outerActions ++ a.s.actions).mergeSort fun x y => decide (x.1 ≤ y.1)
  String.join ((sorted.filter fun x => wanted (.signal x.1)).map fun (n, action) =>
      shown action (nameOf n))
    ++ (if wanted .failure then (a.s.errorAction.map fun t => shown t "ERR").getD "" else "")

def setFor (a : Actor) (action : Option String) : Cause → Actor
  | .signal n => a.setAction action n
  | .failure => { a with s := { a.s with errorAction := action.filter (· ≠ "") } }
  | .idle => a

/-- Sets an action for words in turn. The small shell stops at a word that is no cause. -/
def setForAll (a : Actor) (line : Nat) (action : Option String) (text : String) :
    List String → Actor
  | [] => if text = "" then a.done 0 else a.say 2 text 1
  | word :: rest =>
    match causeOf? a.s word, a.s.dialect with
    | some cause, _ => setForAll (a.setFor action cause) line action text rest
    | none, .posix => a.say 2 ("trap: " ++ word ++ ": bad trap\n") 1
    | none, .bash =>
      setForAll a line action (text ++ a.s.lead line ++ "trap: " ++ word
        ++ ": invalid signal specification\n") rest

/-- The names of all signals, five to a line. -/
def signalTable : String :=
  let all := (List.range (Signal.largest + 1)).filterMap fun n =>
    if n = 0 then none else (Signal.name? n).map (n, ·)
  String.join (all.zipIdx.map fun ((n, name), i) =>
    (if n < 10 then " " else "") ++ toString n ++ ") SIG" ++ name
      ++ (if i % 5 = 4 then "\n" else if i + 1 = all.length then "\t\n" else "\t"))

def trap (a : Actor) (line : Nat) (arguments : List String) : Actor :=
  a.withFlags line "trap" (a.choose "" "lp") "" arguments fun flags operands =>
    if flags.has 'l' then a.print signalTable
    else if flags.has 'p' || operands.isEmpty then
      let wanted := operands.filterMap (causeOf? a.s)
      a.print (a.listActions fun c => operands.isEmpty || wanted.contains c)
    else
      match operands with
      | [] => a.done 0
      | [word] =>
        if a.s.dialect = .bash && (causeOf? a.s word).isNone then a.showUsage "trap"
        else a.setForAll line none "" [word]
      | action :: words =>
        if action = "-" then a.setForAll line none "" words
        else if action.toNat?.isSome && (a.s.signal? action).isSome then
          a.setForAll line none "" (action :: words)
        else a.setForAll line (some action) "" words

/-- Sends a signal to processes that are named by their numbers. -/
def sendTo (a : Actor) (line : Nat) (signal : Signal) (text : String) (failed : Bool) :
    List String → Actor
  | [] =>
    let status := if failed then 1 else 0
    if text = "" then a.done status else a.say 2 text status
  | target :: rest =>
    let lead := a.s.lead line ++ "kill: "
    let isThere (pid : Nat) : Bool := (a.m.proc? pid).any (·.ended.isNone)
    match target.toNat?, a.s.dialect with
    | some pid, dialect =>
      -- a process that has ended can get signals until its parent has taken notice
      if isThere pid || (a.m.proc? pid).isSome then
        sendTo { a with m := a.m.deliver pid signal } line signal text failed rest
      else
        sendTo a line signal (text ++ dialect.choose (lead ++ "No such process\n\n")
          (lead ++ "(" ++ target ++ ") - No such process\n")) true rest
    | none, .posix =>
      a.say 2 (text ++ lead ++ (if target.startsWith "%" then "No such job: " else
        "Illegal number: ") ++ target ++ "\n") 2
    | none, .bash =>
      sendTo a line signal (text ++ lead ++ target
        ++ (if target.startsWith "%" then ": no such job\n"
          else ": arguments must be process or job IDs\n")) true rest

/-- What is said about a call of `kill` in the small shell. -/
def smallKillUsage : String :=
  "kill: Usage: kill [-s sigspec | -signum | -sigspec] [pid | job]... or\nkill -l [exitstatus]"

/-- Sends a signal to the operands of `kill`. -/
def send (a : Actor) (line : Nat) (signal : Signal) (targets : List String) : Actor :=
  if targets.isEmpty then
    a.choose (a.complain line smallKillUsage 2) (a.showUsage "kill")
  else a.sendTo line signal "" false targets

def sendNamed (a : Actor) (line : Nat) (name : String) (targets : List String) : Actor :=
  match a.s.signal? name, a.s.dialect with
  | some signal, _ => a.send line signal targets
  | none, .posix => a.complain line ("kill: invalid signal number or name: " ++ name) 2
  | none, .bash => a.complain line ("kill: " ++ name ++ ": invalid signal specification") 1

def listSignals (a : Actor) (line : Nat) (operands : List String) : Actor :=
  match a.s.dialect, operands with
  | .posix, [] =>
    a.print ("0\n" ++ String.join ((List.range Signal.largest).map fun n =>
      (if n = 15 then "16" else (Signal.name? (n + 1)).getD (toString (n + 1))) ++ "\n"))
  | .posix, word :: _ =>
    match Shell.Arithmetic.decimal? word with
    | none => a.complain line ("kill: Illegal number: " ++ word) 2
    | some n =>
      let n := if 128 < n then n - 128 else n
      if 0 < n && n ≤ Signal.largest then
        a.print ((Signal.name? n.toNat).getD (toString n) ++ "\n")
      else a.complain line ("kill: invalid signal number or exit status: " ++ word) 2
  | .bash, [] => a.print signalTable
  | .bash, words =>
    let answers : List (Except String String) := words.map fun w =>
      match w.toNat?, causeOf? a.s w with
      | some 0, _ => .ok "EXIT"
      | some n, _ =>
        match Signal.name? (if 128 < n then n - 128 else n) with
        | some name => .ok name
        | none => .error w
      | none, some (.signal n) => .ok (toString n)
      | none, _ => .error w
    let good := answers.filterMap fun | .ok t => some (t ++ "\n") | .error _ => none
    let bad := answers.filterMap fun
      | .ok _ => none
      | .error w => some (a.s.lead line ++ "kill: " ++ w ++ ": invalid signal specification\n")
    let status := if bad.isEmpty then 0 else 1
    (a.say 2 (String.join bad) status).say 1 (String.join good) status

def kill (a : Actor) (line : Nat) (arguments : List String) : Actor :=
  let missing (letter : String) : Actor :=
    a.complain line ("kill: " ++ a.choose ("No arg for -" ++ letter ++ " option")
      ("-" ++ letter ++ ": option requires an argument")) (a.choose 2 1)
  match arguments with
  | [] => a.send line Signal.term []
  | "--" :: rest => a.send line Signal.term rest
  | o :: rest =>
    match o.toList, a.s.dialect with
    | '-' :: name, dialect =>
      let isValued := dialect = .bash && (name.head? = some 's' || name.head? = some 'n')
      match (a.s.signal? (String.ofList name)).filter (fun _ => !isValued), name, dialect with
      | some signal, _, _ => a.send line signal rest
      | none, ['l'], _ => a.listSignals line rest
      | none, ['L'], .bash => a.listSignals line rest
      | none, ['s'], _ =>
        match rest with
        | [] => missing "s"
        | word :: rest => a.sendNamed line word rest
      | none, ['n'], .bash =>
        match rest with
        | [] => missing "n"
        | word :: rest => a.sendNamed line word rest
      | none, 's' :: name, _ => a.sendNamed line (String.ofList name) rest
      | none, 'n' :: name, .bash => a.sendNamed line (String.ofList name) rest
      | none, c :: _, .posix => a.complain line ("kill: Illegal option -" ++ String.ofList [c]) 2
      | none, _, _ => a.sendNamed line (String.ofList name) rest
    | _, _ => a.send line Signal.term arguments

def wait (a : Actor) (line : Nat) (arguments : List String) : Actor :=
  a.withFlags line "wait" (a.choose "" "fn") (a.choose "" "p") arguments fun flags operands =>
    let leaveOut (pids : List Nat) (a : Actor) : Actor :=
      { a with s := { a.s with background := a.s.background.filter fun p => !pids.contains p } }
    if operands.isEmpty then
      if flags.has 'n' then (a.done 127).push (.awaitAny a.s.background)
      else (leaveOut a.s.background (a.done 0)).push (.awaitAll a.s.background none)
    else
      match operands.find? fun w => (Shell.Arithmetic.decimal? w).isNone, a.s.dialect with
      | some bad, .posix => a.complain line ("wait: Illegal number: " ++ bad) 2
      | some bad, .bash =>
        a.complain line (if bad.startsWith "%" then "wait: " ++ bad ++ ": no such job"
          else "wait: \x60" ++ bad ++ "\x27: not a pid or valid job spec")
          (if bad.startsWith "%" then 127 else 1)
      | none, dialect =>
        let pids := operands.filterMap String.toNat?
        let known := pids.filter a.s.background.contains
        let text :=
          match dialect with
          | .posix => ""
          | .bash => String.join ((pids.filter fun p => !known.contains p).map fun p =>
              a.s.lead line ++ "wait: pid " ++ toString p ++ " is not a child of this shell\n")
        let last := pids.getLast?
        let a := leaveOut known a
        let wanted := if last.any known.contains then last else some 0
        let a := (a.done 127).push (.awaitAll known wanted)
        if text = "" then a else a.say 2 text 127

/-- The commands in the background that have not ended, with their numbers. -/
def running (a : Actor) : List (Nat × Nat) :=
  (a.s.background.zipIdx.map fun (pid, i) => (i + 1, pid)).filter fun (_, pid) =>
    (a.m.proc? pid).any (·.ended.isNone)

/-- `jobs`. -/
def listJobs (a : Actor) : Actor :=
  let all := a.running
  let last := (all.getLast?.map (·.1)).getD 0
  let sign (n : Nat) : String := if n = last then "+" else if n + 1 = last then "-" else " "
  a.print (String.join (all.map fun (n, _) =>
    "[" ++ toString n ++ "]" ++ a.choose " " "" ++ sign n ++ a.choose " " "  "
      ++ "Running" ++ String.ofList (List.replicate (a.choose 20 17) ' ') ++ "\n"))

/-- Three digits of a number in base eight, after a zero. -/
def maskText (mask : Nat) : String :=
  String.ofList ('0' :: Shell.Change.octal mask)

def maskLetters (mask : Nat) : String :=
  let part (shift : Nat) : String :=
    let allowed := 7 - mask / shift % 8
    (if allowed / 4 % 2 = 1 then "r" else "") ++ (if allowed / 2 % 2 = 1 then "w" else "")
      ++ (if allowed % 2 = 1 then "x" else "")
  "u=" ++ part 64 ++ ",g=" ++ part 8 ++ ",o=" ++ part 1

/-- Three bits of a number, from the lowest one that counts. -/
def bitsAt (n shift : Nat) : Nat := n / shift % 8

/-- Changes what is allowed by one clause of letters: whom, how and what. -/
def changeAllowed (allowed : Nat) (clause : List Char) : Option Nat :=
  let who := clause.takeWhile fun c => "ugoa".toList.contains c
  let places : List Nat :=
    if who.isEmpty || who.contains 'a' then [64, 8, 1]
    else (if who.contains 'u' then [64] else []) ++ (if who.contains 'g' then [8] else [])
      ++ (if who.contains 'o' then [1] else [])
  match clause.drop who.length with
  | op :: letters =>
    if !(op = '=' || op = '+' || op = '-') then none
    else if !letters.all fun c => "rwxXst".toList.contains c then none
    else
      let bits := (if letters.contains 'r' then 4 else 0) + (if letters.contains 'w' then 2 else 0)
        + (if letters.contains 'x' then 1 else 0)
      some (places.foldl (fun n place =>
        let old := bitsAt n place
        let new := if op = '=' then bits else if op = '+' then old ||| bits
          else old - (old &&& bits)
        n - old * place + new * place) allowed)
  | [] => none

def umask (a : Actor) (line : Nat) (arguments : List String) : Actor :=
  a.withFlags line "umask" (a.choose "S" "pS") "" arguments fun flags operands =>
    let set (mask : Nat) : Actor := { a with s := { a.s with mask } }.done 0
    match operands with
    | [] =>
      a.print ((if flags.has 'p' then "umask " ++ (if flags.has 'S' then "-S " else "") else "")
        ++ (if flags.has 'S' then maskLetters a.s.mask else maskText a.s.mask) ++ "\n")
    | word :: _ =>
      let digits := word.toList
      if digits.head?.any Char.isDigit then
        if digits.all Shell.isOctalDigit then set (Shell.numberIn 8 digits % 512)
        else a.complain line ("umask: " ++ a.choose ("Illegal number: " ++ word)
          (word ++ ": octal number out of range")) (a.choose 2 1)
      else
        let clauses := (word.splitOn ",").map String.toList
        match clauses.foldlM changeAllowed (511 - a.s.mask) with
        | some allowed => set (511 - allowed)
        | none =>
          let sign := digits.find? fun c => !"ugoa".toList.contains c
          a.complain line ("umask: " ++ a.choose ("Illegal mode: " ++ word)
            ("\x60" ++ String.ofList sign.toList ++ "\x27: invalid symbolic mode operator"))
            (a.choose 2 1)

/-- `ulimit`. -/
def limits (a : Actor) (arguments : List String) : Actor :=
  let table : List (Char × String) :=
    [('c', "0"), ('s', "8192"), ('n', "20000"), ('l', "8192"), ('p', a.choose "128604" "8"),
      ('u', "128604"), ('i', "128604"), ('q', "819200"), ('e', "0"), ('r', "0")]
  let letters := (arguments.filter (·.startsWith "-")).flatMap fun o => o.toList.drop 1
  let operands := arguments.filter fun o => !o.startsWith "-"
  let letter := (letters.filter fun c => c ≠ 'H' && c ≠ 'S').head?.getD 'f'
  if operands.isEmpty then a.print ((table.lookup letter).getD "unlimited" ++ "\n") else a.done 0

def times (a : Actor) : Actor :=
  let shown := a.choose "0m0.000000s 0m0.000000s\n" "0m0.000s 0m0.000s\n"
  a.print (shown ++ shown)

/-- `bg` and `fg`. -/
def resumeJob (a : Actor) (line : Nat) (name : String) : Actor :=
  a.complain line (name ++ ": " ++ a.choose "No current job" "no job control") (a.choose 2 1)

end Actor

end RLanguageHost.Machine
