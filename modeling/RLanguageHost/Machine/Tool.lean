import RLanguageHost.Machine.Basic
import RLanguageHost.Utility.Catalog

/-!
# Tools

The programs that a machine has besides shells, while they run. Most of them read their inputs to
the end before they write; some copy as they read, wait, or write for as long as somebody reads.
-/

namespace RLanguageHost.Machine

/-- A time in microseconds, as `sleep` takes it: a number with decimals and a unit. -/
def sleepTime? (argument : String) : Option Nat :=
  let cs := argument.toList
  let whole := cs.takeWhile Char.isDigit
  let rest := cs.dropWhile Char.isDigit
  let (decimals, rest) :=
    match rest with
    | '.' :: r => (r.takeWhile Char.isDigit, r.dropWhile Char.isDigit)
    | _ => ([], rest)
  let unit :=
    match rest with
    | [] | ['s'] => some 1
    | ['m'] => some 60
    | ['h'] => some 3600
    | ['d'] => some 86400
    | _ => none
  if argument = "infinity" || argument = "inf" then some 1000000000000000
  else if whole.isEmpty && decimals.isEmpty then none
  else
    unit.map fun u =>
      ((String.ofList whole).toNat?.getD 0 * 1000000
        + (String.ofList ((decimals ++ List.replicate 6 '0').take 6)).toNat?.getD 0) * u

/-- The programs of a machine besides shells. -/
def toolNames : List String :=
  ["sleep", "tee", "yes", "timeout", "env", "nohup", "nice", "setsid", "stdbuf"] ++ Utility.names

def teeGrammar : Utility.Grammar where
  flags := "aip"
  long := [("append", 'a'), ("ignore-interrupts", 'i')]

def Tool.ofCall (clock : Nat) (c : Utility.Call) : Tool :=
  let complain (s : String) (status : Nat) : Tool :=
    .print [(2, Shell.rawOf (c.name ++ ": " ++ s ++ "\n"))] status
  match c.name with
  | "sleep" =>
    match c.arguments with
    | [] => complain ("missing operand" ++ Utility.helpHint "sleep") 1
    | _ =>
      match c.arguments.find? fun a => (sleepTime? a).isNone with
      | none => .sleep ((c.arguments.filterMap sleepTime?).foldl (· + ·) clock)
      | some bad =>
        match bad.toList with
        | '-' :: letter :: _ =>
          complain ("invalid option -- \x27" ++ String.ofList [letter] ++ "\x27"
            ++ Utility.helpHint "sleep") 1
        | _ =>
          complain ("invalid time interval \x27" ++ bad ++ "\x27" ++ Utility.helpHint "sleep") 1
  | "yes" =>
    let words := if c.arguments.isEmpty then ["y"] else c.arguments
    .endless (Shell.rawOf (" ".intercalate words ++ "\n")) []
  | "tee" | "timeout" => .gather { call := c, wanted := [] }
  | "head" =>
    match Utility.Options.read Utility.Lines.endGrammar {}
        (Utility.Lines.endOptions c.arguments) with
    | .ok { given, operands } =>
      match operands, Utility.Lines.portionOf '-' { given } with
      | [], .ok { lines, count, inverse := false } => .front 0 lines count []
      | [path], .ok { lines, count, inverse := false } =>
        if (deviceAt? path).any (·.isEndless) then .frontOf path lines count else job
      | _, _ => job
    | _ => job
  | name =>
    let plainCopy := name = "cat" && c.arguments.all fun a =>
      a = "-" || !a.startsWith "-" || a = "-u"
    if plainCopy then
      let files := c.arguments.filter (· ≠ "-u")
      .copy (if files.isEmpty then ["-"] else files) none [] 0
    else
      job
where
  /-- The tool that reads its inputs first. -/
  job : Tool :=
    match Utility.program? c.name with
    | some program => .gather { call := c, wanted := program.wants c }
    | none => .converse c [] .thinking

inductive ToolStep where
  | goesOn (tool : Tool) (m : Machine)
  | ends (status : Nat) (m : Machine)
  /-- A script is carried out after pieces are written. -/
  | becomes (pieces : List (Nat × Bytes)) (script : String) (environment : List String)
    (m : Machine)
  /-- A command is run by a shell, with an input of its own or with its output in a pipe. The tool
  goes on with the process and the pipe. -/
  | runs (command : String) (environment : List String) (input : Option Bytes) (collects : Bool)
    (next : Nat → Option Nat → Tool) (m : Machine)
  /-- A command is run for some time at most, and then gets a signal. -/
  | watches (words environment : List String) (time : Nat) (signal : Signal) (m : Machine)
  /-- The tool writes where nobody reads. -/
  | broken
  | blocked

/-- Writes to a stream of a process, then goes on with a tool that has the rest to write. -/
def writeThen (m : Machine) (p : Proc) (stream : Nat) (bytes : Bytes) (next : Bytes → Tool) :
    ToolStep :=
  match m.write (p.stream stream) bytes with
  | .wrote n m => .goesOn (next (bytes.drop n)) m
  | .blocked => .blocked
  | .broken => .broken

/-- The most bytes that a tool reads at once. -/
def blockSize : Nat := 65536

/-- The first of the streams that a tool opens for itself. -/
def operandStream : Nat := 1000

/-- The stream of the process that a path in `/dev` names. -/
def streamNamed? (target : String) : Option Nat :=
  match target with
  | "/dev/stdin" => some 0
  | "/dev/stdout" => some 1
  | "/dev/stderr" => some 2
  | _ =>
    match target.splitOn "/" with
    | ["", "dev", "fd", n] => n.toNat?
    | _ => none

def openForReading (m : Machine) (p : Proc) (path : String) : Except Failure (Handle × Machine) :=
  match (streamNamed? path).map (p.streams.lookup ·) with
  | some (some h) => .ok (h, m)
  | some none => .error (.system .noEntry)
  | none =>
    if let some device := deviceAt? path then .ok (device, m)
    else
      match m.tree.locate (FileTree.path p.directory) ⟨Shell.rawOf path⟩ with
      | .error e => .error e
      | .ok (_, .directory) => .error (.system .isDirectory)
      | .ok (place, .file ..) => .ok (m.openFile { place })

def openForWriting (m : Machine) (directory : Place) (target : String) (empties appends : Bool) :
    Except Failure (Handle × Machine) :=
  match m.tree.locateForWriting (FileTree.path directory) ⟨Shell.rawOf target⟩ with
  | .error e => .error e
  | .ok (place, _) =>
    let tree := if empties then m.tree.emptyAt place else m.tree.appendAt place []
    .ok ({ m with tree }.openFile { place, appends })

/-- Opens the files that `tee` copies to, each on a stream of its own. What is said about those that
cannot be opened comes with it. -/
def openCopies (m : Machine) (p : Proc) (appends : Bool) :
    (next : Nat) → List String → Machine × List Nat × List (Nat × Bytes)
  | _, [] => (m, [], [])
  | next, path :: rest =>
    let opened : Except Failure (Handle × Machine) :=
      match (streamNamed? path).bind (p.streams.lookup ·) with
      | some h => .ok (h, m)
      | none =>
        if let some device := deviceAt? path then .ok (device, m)
        else openForWriting m p.directory path (!appends) appends
    match opened with
    | .ok (h, m) =>
      let m := m.modify p.pid (·.setStream next (some h))
      let (m, streams, faults) := openCopies m p appends (next + 1) rest
      (m, next :: streams, faults)
    | .error e =>
      let (m, streams, faults) := openCopies m p appends next rest
      (m, streams,
        (2, Shell.rawOf ("tee: " ++ path ++ ": " ++ Utility.describe e ++ "\n")) :: faults)

def timeoutGrammar : Utility.Grammar where
  flags := "v!"
  valued := "sk"
  long := [("signal", 's'), ("kill-after", 'k'), ("preserve-status", '!'), ("foreground", 'v')]
  permutes := false

def beginTimeout (m : Machine) (c : Utility.Call) : ToolStep :=
  let complain (text : String) : ToolStep :=
    .goesOn (.print [(2, Shell.rawOf ("timeout: " ++ text ++ Utility.helpHint "timeout" ++ "\n"))]
      125) m
  match Utility.Options.read timeoutGrammar {} c.arguments with
  | .error text => complain text
  | .ok o =>
    match o.operands with
    | [] | [_] =>
      .goesOn (.print [(2, Shell.rawOf "Try \x27timeout --help\x27 for more information.\n")] 125) m
    | time :: words =>
      let signal := (o.value? 's').elim (some Signal.term) Signal.ofText?
      match sleepTime? time, signal with
      | some time, some signal => .watches words c.environment time signal m
      | none, _ => complain ("invalid time interval \x27" ++ time ++ "\x27")
      | _, none => complain ((o.value? 's').getD "" ++ ": invalid signal")

def beginTee (m : Machine) (p : Proc) (c : Utility.Call) : ToolStep :=
  match Utility.Options.read teeGrammar {} c.arguments with
  | .error text =>
    .goesOn (.print [(2, Shell.rawOf ("tee: " ++ text ++ Utility.helpHint "tee" ++ "\n"))] 1) m
  | .ok o =>
    let (m, streams, faults) := openCopies m p (o.has 'a') operandStream o.operands
    .goesOn (.spread (1 :: streams) faults (if faults.isEmpty then 0 else 1)) m

/-- The pieces of an answer without what has been written of them to the standard output. -/
def withoutShown : (shown : Nat) → List (Nat × Bytes) → List (Nat × Bytes)
  | _, [] => []
  | 0, pieces => pieces
  | shown, (stream, bytes) :: rest =>
    if stream = 1 then
      (1, bytes.drop shown) :: withoutShown (shown - bytes.length) rest
    else (stream, bytes) :: withoutShown shown rest

def endJob (m : Machine) (job : Job) (answer : Utility.Answer) : ToolStep :=
  let m := (answer.tree.map fun tree => { m with tree }).getD m
  let pieces := withoutShown job.shown answer.pieces
  match answer.script with
  | none => .goesOn (.print pieces answer.status) m
  | some script => .becomes pieces script job.call.environment m

/-- Ends a job whose inputs are there. -/
def finishJob (m : Machine) (p : Proc) (job : Job) : ToolStep :=
  match job.call.name, Utility.program? job.call.name with
  | "tee", _ => beginTee m p job.call
  | "timeout", _ => beginTimeout m job.call
  | _, none => .ends 0 m
  | _, some program =>
    endJob m job (program.run { job.call with tree := m.tree, directory := p.directory })

/-- What two byte strings begin with. -/
def commonStart : Bytes → Bytes → Bytes
  | a :: as, b :: bs => if a = b then a :: commonStart as bs else []
  | _, _ => []

/-- What a job has made of its input so far: its answer if that is decided, and what it is certain
to write to its standard output whatever comes. A line that is hardly ever there is tried as the
next one. -/
def lookAt (m : Machine) (p : Proc) (job : Job) (pace : Utility.Pace)
    (program : Utility.Program) (name : String) : Option Utility.Answer × Bytes :=
  let all := job.pieces.reverse.flatten
  let whole := if pace.byLines then (all.reverse.dropWhile (· ≠ 10)).reverse else all
  let answer (bytes : Bytes) : Utility.Answer :=
    program.run { job.call with
      tree := m.tree, directory := p.directory
      inputs := job.call.inputs ++ [{ name, content := .ok bytes }] }
  let first := answer whole
  let second := answer (whole ++ [1, 10])
  let out (a : Utility.Answer) : Bytes := a.pieces.flatMap fun x => if x.1 = 1 then x.2 else []
  if whole.isEmpty then (none, [])
  else if first.isDecided && second.isDecided && first.pieces = second.pieces then (some first, [])
  else (none, commonStart (out first) (out second))

/-- The size of the pieces in which output is written. -/
def pieceSize : Nat := 4096

/-- So much of an input is read at most: a longer one counts as endless. -/
def gatherBound : Nat := 16777216

/-- Looks at a job whose input has not ended. -/
def lookAgain (m : Machine) (p : Proc) (job : Job) (name : String) : ToolStep :=
  let seen : Job := { job with looked := job.size }
  match Utility.program? job.call.name with
  | none => .goesOn (.gather seen) m
  | some program =>
    match program.pace? { job.call with directory := p.directory, tree := m.tree } with
    | none => .goesOn (.gather seen) m
    | some pace =>
      match lookAt m p job pace program name with
      | (some answer, _) => endJob m job answer
      | (none, certain) =>
        let size := if pace.lineByLine then certain.length
          else certain.length / pieceSize * pieceSize
        let unwritten := (certain.take size).drop job.shown
        .goesOn (.gather { seen with unwritten, shown := max job.shown size }) m

/-- Whether it is time to look at a job: then there is much more input than at the last time, or
none for now. -/
def isDue (job : Job) (isBlocked : Bool) : Bool :=
  match (Utility.program? job.call.name).bind fun program => program.pace? job.call with
  | none => false
  | some pace =>
    let early := pace.lineByLine || pace.mayStop
    let least := if early then pieceSize else blockSize
    job.looked < job.size
      && ((isBlocked && early) || (least ≤ job.size && 2 * job.looked ≤ job.size))

def stepJob (m : Machine) (p : Proc) (job : Job) : ToolStep :=
  let add (name : String) (content : Except Failure Bytes) : List Utility.Input :=
    job.call.inputs ++ [{ name, content }]
  match job.unwritten, job.wanted, job.current with
  | b :: rest, _, _ =>
    writeThen m p 1 (b :: rest) fun left => .gather { job with unwritten := left }
  | [], [], _ => finishJob m p job
  | [], name :: rest, some stream =>
    if rest.isEmpty && isDue job false then lookAgain m p job name
    else if gatherBound ≤ job.size then .blocked
    else
      match m.read (p.stream stream) blockSize with
      | .data bytes m =>
        .goesOn (.gather { job with
          pieces := bytes :: job.pieces, size := job.size + bytes.length }) m
      | .blocked =>
        if rest.isEmpty && isDue job true then lookAgain m p job name else .blocked
      | .atEnd =>
        let inputs := add name (.ok job.pieces.reverse.flatten)
        let m := if stream = operandStream then m.modify p.pid (·.setStream stream none) else m
        .goesOn (.gather { call := { job.call with inputs }, wanted := rest, shown := job.shown }) m
  | [], name :: rest, none =>
    if name = "-" then .goesOn (.gather { job with current := some 0 }) m
    else
      match openForReading m p name with
      | .ok (h, m) =>
        .goesOn (.gather { job with current := some operandStream })
          (m.modify p.pid (·.setStream operandStream (some h)))
      | .error e =>
        .goesOn (.gather { call := { job.call with inputs := add name (.error e) }
                           wanted := rest }) m

/-- Does what is not left to time: the reply to an errand that concerns files. -/
def fileErrand? (m : Machine) (p : Proc) (errand : Utility.Errand) :
    Option (Utility.Reply × Machine) :=
  let settled (path : String) : Bool := (deviceAt? path).isSome || (streamNamed? path).isSome
  match errand with
  | .load path =>
    if (deviceAt? path).isSome then some (.content (.ok []), m)
    else
      match m.tree.locate (FileTree.path p.directory) ⟨Shell.rawOf path⟩ with
      | .error e => some (.content (.error e), m)
      | .ok (_, .directory) => some (.content (.error (.system .isDirectory)), m)
      | .ok (_, .file content _) => some (.content (.ok content), m)
  | .create path appends =>
    if settled path then some (.done, m)
    else
      match m.tree.locateForWriting (FileTree.path p.directory) ⟨Shell.rawOf path⟩ with
      | .error e => some (.content (.error e), m)
      | .ok (place, _) =>
        let tree := if appends then m.tree.appendAt place [] else m.tree.emptyAt place
        some (.done, { m with tree })
  | .extend path bytes =>
    if settled path then some (.done, m)
    else
      match m.tree.locateForWriting (FileTree.path p.directory) ⟨Shell.rawOf path⟩ with
      | .error _ => some (.done, m)
      | .ok (place, _) => some (.done, { m with tree := m.tree.appendAt place bytes })
  | _ => none

/-- The stream in which a program with errands collects the output of a command. -/
def collectingStream : Nat := 1001

/-- One step of a program that asks for what it needs. -/
def stepConverse (m : Machine) (p : Proc) (c : Utility.Call) (replies : List Utility.Reply)
    (stage : Stage) : ToolStep :=
  let replied (r : Utility.Reply) (m : Machine) : ToolStep :=
    .goesOn (.converse c (r :: replies) .thinking) m
  match stage with
  | .busy => .blocked
  | .writing stream rest =>
    if rest.isEmpty then replied .done m
    else writeThen m p stream rest fun left => .converse c replies (.writing stream left)
  | .receiving most =>
    match m.read (p.stream 0) most with
    | .data bytes m => replied (.content (.ok bytes)) m
    | .atEnd => replied (.content (.ok [])) m
    | .blocked => .blocked
  | .running pid (some pipe) output =>
    match m.read (p.stream collectingStream) blockSize with
    | .data bytes m => .goesOn (.converse c replies (.running pid (some pipe) (bytes :: output))) m
    | .atEnd =>
      .goesOn (.converse c replies (.running pid none output))
        (m.modify p.pid (·.setStream collectingStream none))
    | .blocked => .blocked
  | .running pid none output =>
    match m.reap pid with
    | some (word, m) => replied (.ran word output.reverse.flatten) m
    | none => if (m.proc? pid).isNone then replied (.ran 0 output.reverse.flatten) m else .blocked
  | .thinking =>
    match Utility.talkers.lookup c.name with
    | none => .ends 0 m
    | some turn =>
      match turn { c with directory := p.directory } replies.reverse with
      | .ends status => .ends status m
      | .busy => .goesOn (.converse c replies .busy) m
      | .asks (.write stream bytes) => .goesOn (.converse c replies (.writing stream bytes)) m
      | .asks (.receive most) => .goesOn (.converse c replies (.receiving most)) m
      | .asks (.run command input collects) =>
        .runs command c.environment input collects
          (fun pid pipe => .converse c replies (.running pid pipe [])) m
      | .asks errand =>
        match fileErrand? m p errand with
        | some (r, m) => replied r m
        | none => .ends 0 m

def stepTool (m : Machine) (p : Proc) : Tool → ToolStep
  | .sleep deadline => if m.clock < deadline then .blocked else .ends 0 m
  | .print [] status => .ends status m
  | .print ((_, []) :: rest) status => .goesOn (.print rest status) m
  | .print ((stream, bytes) :: rest) status =>
    writeThen m p stream bytes fun left => .print ((stream, left) :: rest) status
  | .copy operands current (b :: rest) status =>
    writeThen m p 1 (b :: rest) fun left => .copy operands current left status
  | .copy operands (some stream) [] status =>
    match m.read (p.stream stream) blockSize with
    | .data bytes m => .goesOn (.copy operands (some stream) bytes status) m
    | .atEnd =>
      let m := if stream = operandStream then m.modify p.pid (·.setStream stream none) else m
      .goesOn (.copy operands none [] status) m
    | .blocked => .blocked
  | .copy [] none [] status => .ends status m
  | .copy (operand :: operands) none [] status =>
    if operand = "-" then .goesOn (.copy operands (some 0) [] status) m
    else
      match openForReading m p operand with
      | .ok (h, m) =>
        .goesOn (.copy operands (some operandStream) [] status)
          (m.modify p.pid (·.setStream operandStream (some h)))
      | .error e =>
        let line := Shell.rawOf ("cat: " ++ operand ++ ": " ++ Utility.describe e ++ "\n")
        match m.write (p.stream 2) line with
        | .wrote _ m => .goesOn (.copy operands none [] 1) m
        | _ => .goesOn (.copy operands none [] 1) m
  | .frontOf path lines count =>
    match openForReading m p path with
    | .ok (h, m) =>
      .goesOn (.front operandStream lines count [])
        (m.modify p.pid (·.setStream operandStream (some h)))
    | .error _ => .ends 1 m
  | .front stream lines count (b :: rest) =>
    writeThen m p 1 (b :: rest) fun left => .front stream lines count left
  | .front stream lines count [] =>
    if count = 0 then .ends 0 m
    else
      match m.read (p.stream stream) (if lines then 1 else min count blockSize) with
      | .data bytes m =>
        .goesOn (.front stream lines
          (count - (if lines then bytes.count 10 else bytes.length)) bytes) m
      | .atEnd => .ends 0 m
      | .blocked => .blocked
  | .spread streams ((_, []) :: rest) status => .goesOn (.spread streams rest status) m
  | .spread streams ((stream, bytes) :: rest) status =>
    writeThen m p stream bytes fun left => .spread streams ((stream, left) :: rest) status
  | .spread streams [] status =>
    match m.read (p.stream 0) blockSize with
    | .data bytes m => .goesOn (.spread streams (streams.map (·, bytes)) status) m
    | .atEnd => .ends status m
    | .blocked => .blocked
  | .endless bytes [] => .goesOn (.endless bytes (List.replicate 64 bytes).flatten) m
  | .endless bytes (b :: rest) =>
    writeThen m p 1 (b :: rest) fun left => .endless bytes left
  | .limit pid deadline signal expired =>
    match m.reap pid with
    | some (word, m) => .ends (if expired && signal ≠ Signal.kill then 124 else statusOf word) m
    | none =>
      if (m.proc? pid).isNone then .ends 0 m
      else if m.clock < deadline || expired then .blocked
      else .goesOn (.limit pid deadline signal true) (m.deliver pid signal)
  | .gather job => stepJob m p job
  | .converse c replies stage => stepConverse m p c replies stage

end RLanguageHost.Machine
