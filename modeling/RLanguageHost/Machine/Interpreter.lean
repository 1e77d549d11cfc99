import RLanguageHost.Machine.Simple

/-!
# Shells at work

One step of a shell takes the frame on top of what it has to do. A step that has to wait for
somebody is not taken. Where the output of a command is put in, the command runs first, in a process
of its own, and the step is tried again when its output is there.

The host meets shells only as processes that read, write and exit. What they do is written down so
that runs with scripts as servers have the output and the exits that they have on a real machine.
-/

namespace RLanguageHost.Machine

open Shell (Frame Command)

/-- The signal that the shell acts on next, if what it is at can be interrupted. A command in the
foreground is only interrupted by signals that end the shell. -/
def dueSignal? (p : Proc) (s : Shell.State) : Option Signal :=
  let isWaiting :=
    match s.frames with
    | .await _ :: _ | .awaitPipeline .. :: _ | .collect .. :: _ => true
    | _ => false
  p.pending.find? fun n =>
    p.handles n && (!isWaiting || (s.actions.lookup n).isNone)

inductive Outcome where
  | goesOn (a : Actor)
  /-- The shell has to wait for somebody. -/
  | blocked
  /-- The shell ends with a status word. -/
  | ends (a : Actor) (word : Nat)
  deriving Inhabited

namespace Actor

/-- Starts the action on a signal. A shell that reads or waits is interrupted. -/
def act (a : Actor) (signal : Signal) : Actor :=
  let a := { a with m := a.m.modify a.p.pid fun p => { p with pending := p.pending.erase signal } }
  match a.s.actions.lookup signal with
  | none =>
    -- the signal ends the shell, after what it does at its end
    let action := (a.s.actions.lookup 0).getD ""
    let status := a.s.status
    let a := { a with s := { a.s with actions := a.s.actions.filter (·.1 ≠ 0) } }
    ((a.withFrames [.die signal]).perform 1 "exit trap" action).done status
  | some action =>
    let a :=
      match a.s.frames, a.s.dialect with
      | .read .. :: rest, .posix => (a.withFrames rest).done 1
      | .awaitAll .. :: rest, _ | .awaitAny .. :: rest, _ => (a.withFrames rest).done (128 + signal)
      | _, _ => a
    let status := a.s.status
    ((a.push (.status status)).perform 1 "trap" action).done status

/-- The shell ends, after what it does at its end. -/
def finish (a : Actor) (status : Nat) : Outcome :=
  match (a.s.actions.lookup 0).filter (· ≠ "") with
  | some action =>
    let s := { a.s with
      actions := a.s.actions.filter (·.1 ≠ 0), frames := [.exit status], origin := none }
    .goesOn (({ a with s }.perform 1 "exit trap" action).done status)
  | none => .ends a (status % 256 * 256)

/-- Whether the shell looks at the status of what it is doing. -/
def isTested (a : Actor) : Bool :=
  a.s.isTested || a.s.frames.any fun
    | .onSuccess _ | .onFailure _ | .invert | .branch .. | .tested .. => true
    | _ => false

/-- Whether the failure of a command can end a shell that stops on errors. -/
def canFail : Command → Bool
  | .simple _ | .pipeline .. | .subshell _ | .arithmetic .. | .test .. => true
  | _ => false

/-- The commands of a pipeline, each with whether the next one also reads what it reports. -/
def stages : Command → List (Command × Bool)
  | .pipeline errors first second => (first, errors) :: stages second
  | c => [(c, false)]

/-- Starts the commands of a pipeline; each but the first one reads what the one before writes. -/
def startStages (a : Actor) (isTested : Bool) (input : Option Nat) :
    List (Command × Bool) → List Nat × Actor
  | [] => ([], a)
  | (c, errors) :: rest =>
    let isStage := a.s.isStage
    let within (a : Actor) (c : Command) (f : Proc → Proc) : Nat × Actor :=
      let (pid, a) := { a with s := { a.s with isStage := true } }.forkShell isTested [.run c] f
      (pid, { a with s := { a.s with isStage } })
    let fed (p : Proc) : Proc := (input.map fun pipe => p.setStream 0 (some (.source pipe))).getD p
    if rest.isEmpty then
      let (pid, a) := within a c fed
      ([pid], a)
    else
      let (pipe, m) := a.m.makePipe
      let sink (p : Proc) : Proc :=
        let p := p.setStream 1 (some (.sink pipe))
        if errors then p.setStream 2 (some (.sink pipe)) else p
      let (pid, a) := within { a with m } c fun p => sink (fed p)
      let (pids, a) := startStages a isTested (some pipe) rest
      (pid :: pids, a)

/-- The text of words as they stand in a script, as far as traces need it. -/
def shownWords (words : List Shell.Word) : String :=
  " ".intercalate (words.map shownWord)

/-- The number of an expression between parentheses; an empty one counts as another number. -/
def numberOf (a : Actor) (source : String) (otherwise : Int64) :
    Except Shell.Stop (Int64 × Shell.State) := do
  let (text, s) ← Shell.Expansion.textOf a.s .document source
  if text.trimAscii.isEmpty then return (otherwise, s)
  else s.number text

/-- An expression of a command cannot be evaluated. -/
def numberFailed (a : Actor) (line : Nat) (x : Shell.Stop) : Actor :=
  match x.waits with
  | some pending => { a with waits := some pending }
  | none => a.complain line ("((: " ++ x.text) 1

/-- Shows an expression of a command. -/
def traceNumber (a : Actor) (source : String) : Actor :=
  a.trace ("(( " ++ source.trimAscii.toString ++ " ))")

/-- Whether the larger shell stays there for the commands within a command. -/
def isCompound : Command → Bool
  | .redirected .. | .conditional .. | .loop .. | .each .. | .counted .. | .choice .. => true
  | _ => false

def run (a : Actor) (c : Command) : Actor :=
  let a := if a.s.dialect = .bash && isCompound c then
      { a with s := { a.s with yieldsLast := false } }
    else a
  match c with
  | .nothing => a
  | .simple c => a.runSimple c
  | .sequence first second => (a.push (.run second)).push (.run first)
  | .both first second => (a.push (.onSuccess second)).push (.run first)
  | .either first second => (a.push (.onFailure second)).push (.run first)
  | .negation c => (a.push .invert).push (.run c)
  | .pipeline .. =>
    let (pids, a) := a.startStages a.isTested none (stages c)
    a.push (.awaitPipeline pids [])
  | .background c =>
    let (pid, a) := a.forkShell false [.run c] fun p =>
      { p with ignored := [Signal.interrupt, Signal.quit] ++ p.ignored }.setStream 0 (some .null)
    { a with s := { a.s with
      lastBackground := some pid, background := a.s.background ++ [pid] } }.done 0
  | .subshell c =>
    let inner := { a with s := { a.s with isStage := false } }
    let (pid, forked) := inner.forkShell a.isTested [.run c] id
    { a with m := forked.m }.push (.await pid)
  | .redirected line c redirections =>
    let s := { a.s with line }
    match redirect a.m a.p (a.filesOf s.options) s redirections with
    | .error fault => a.redirectionFailed line fault
    | .ok (m, p, s, saved) => ({ a with m, p, s }.push (.restore saved)).push (.run c)
  | .conditional test yes no => (a.push (.branch yes no)).push (.run test)
  | .loop untilSuccess test body => (a.push (.tested untilSuccess test body 0)).push (.run test)
  | .each line name words body =>
    let a := { a with s := { a.s with line } }
    if a.s.dialect = .bash && !Shell.isName name then
      a.complain line ("\x60" ++ name ++ "\x27: not a valid identifier") 1
    else
      let values : Except Shell.Stop (List String × Shell.State) :=
        match words with
        | none => .ok (a.s.parameters, a.s)
        | some words => a.expand a.s words
      match values with
      | .error x => a.stop line x
      | .ok (values, s) =>
        let shown := match words with
          | none => "\"$@\""
          | some words => shownWords words
        let a := { a with s }
        let a := if values.isEmpty then a.done 0 else a
        a.push (.each line name values shown body)
  | .counted line start test step body =>
    match ({ a with s := { a.s with line } }).numberOf start 1 with
    | .error x => a.numberFailed line x
    | .ok (_, s) =>
      (({ a with s }.traceNumber start).done 0).push (.counting line test step body)
  | .choice line subject arms =>
    match Shell.Expansion.text { a.s with line } subject with
    | .error x => a.stop line x
    | .ok (text, s) =>
      let a := { a with s }
      let a := if a.s.dialect = .bash then a.trace ("case " ++ shownWord subject ++ " in") else a
      a.push (.arms line text arms)
  | .arm .. => a
  | .define name body =>
    let others := a.s.functions.filter (·.1 ≠ name)
    { a with s := { a.s with functions := (name, body) :: others } }.done 0
  | .arithmetic line source =>
    let a := { a with s := { a.s with line } }
    match a.numberOf source 0 with
    | .error x => a.numberFailed line x
    | .ok (n, s) => ({ a with s }.traceNumber source).done (if n == 0 then 1 else 0)
  | .test line t =>
    let a := { a with s := { a.s with line } }
    match Shell.Test.evaluate a.knows false a.s t with
    | .error x => a.stopCommand line "[[" x
    | .ok (answer, s) =>
      let a := s.notes.reverse.foldl (fun (a : Actor) n => a.trace n)
        { a with s := { s with notes := [] } }
      a.done (match answer with
        | .holds true => 0
        | .holds false => 1
        | .unreadable => 2)
  | .warning line text => a.say 2 (a.s.ownLead line ++ text ++ "\n") a.s.status

def chooseArm (a : Actor) (line : Nat) (text : String) : Command → Actor
  | .arm patterns ending body others =>
    let found : Except Shell.Stop (Bool × Shell.State) :=
      patterns.foldlM (fun (found, s) w =>
        if found then .ok (true, s)
        else do
          let (field, s) ← Shell.Expansion.pattern s w
          return (field.isMatch text.toList, s)) (false, a.s)
    match found with
    | .error x => a.stop line x
    | .ok (false, s) => { a with s }.push (.arms line text others)
    | .ok (true, s) => enter { a with s } ending body others
  | _ => a.done 0
where
  /-- Carries out the body of an arm, and what its ending says. -/
  enter (a : Actor) (ending : String) (body others : Command) : Actor :=
    let a := if body = .nothing then a.done 0 else a
    match ending, others with
    | ";&", .arm _ ending' body' others' => (enter a ending' body' others').push (.run body)
    | ";;&", _ => (a.push (.arms line text others)).push (.run body)
    | _, _ => a.push (.run body)

/-- Starts what an expansion waits for. The frame that is being carried out is still on top. -/
def begin_ (a : Actor) (pending : Shell.Pending) : Actor :=
  match pending with
  | .output source =>
    let (pipe, m) := a.m.makePipe
    let script := Shell.Script.ofText a.s.dialect a.s.line source
    let lines := script.lines.map fun
      -- a redirection alone gives the content of its file
      | .simple { line, assignments := [], words := [], redirections := [r] } =>
        if r.opening = .input && a.s.dialect = .bash then
          .simple { line, words := [[.text "cat" false]], redirections := [r] }
        else .simple { line, redirections := [r] }
      | c => c
    let stops := a.s.options.stopsOnError && a.s.dialect = .posix
    let inner := { a with m, s := { a.s with
      depth := a.s.depth + 1, isStage := false,
      options := { a.s.options with stopsOnError := stops } } }
    let (pid, forked) := inner.forkShell false [.script lines script.fault "command substitution"]
      (·.setStream 1 (some (.sink pipe)))
    { a with m := forked.m, p := a.p.setStream (1000 + pipe) (some (.source pipe)) }.push
      (.collect pipe [] pid)
  | .process writes source =>
    let (pipe, m) := a.m.makePipe
    let script := Shell.Script.ofText a.s.dialect a.s.line source
    let stream := ((List.range 54).find? fun i => (a.p.streams.lookup (63 - i)).isNone).elim 63
      (63 - ·)
    let isStage := a.s.isStage
    let (pid, a) := { a with m, s := { a.s with isStage := true } }.forkShell false
      [.script script.lines script.fault "process substitution"]
      fun p =>
        if writes then p.setStream 0 (some (.source pipe))
        else p.setStream 1 (some (.sink pipe))
    let a := { a with s := { a.s with isStage } }
    let received := a.s.received ++ [("/dev/fd/" ++ toString stream, none)]
    let frames :=
      match a.s.frames with
      | f :: rest => f :: .restore [(stream, none)] :: rest
      | [] => []
    { a with
      p := a.p.setStream stream (some (if writes then .sink pipe else .source pipe))
      s := { a.s with received, frames, lastBackground := some pid } }

/-- What a shell says of a command that a signal has ended. -/
def noticeOf (a : Actor) (pid word : Nat) : String :=
  let signal := word % 128
  if signal = 0 || signal = Signal.interrupt || signal = Signal.pipe then ""
  else
    match a.s.dialect with
    | .posix => Signal.description signal ++ "\n"
    | .bash =>
      if signal = Signal.term then Signal.description signal ++ "\n"
      else
        a.s.lead a.s.line ++ Utility.padded 5 pid ++ " " ++ Signal.description signal ++ "\n"

/-- A command has ended with a status word. -/
def ended (a : Actor) (pid word : Nat) : Actor :=
  let a := a.done (statusOf word)
  let notice := a.noticeOf pid word
  if notice = "" then a else a.say 2 notice (statusOf word)

/-- All commands of a pipeline have ended. -/
def pipelineDone (a : Actor) (statuses : List Nat) : Actor :=
  let last := statuses.getLast?.getD 0
  let status :=
    if a.s.options.pipelineFails then (statuses.reverse.find? (· ≠ 0)).getD 0 else last
  { a with s := { a.s with status, pipelineStatuses := statuses } }

/-- The shell has got a fault in a script. It ends the small shell. -/
def syntaxFailed (a : Actor) (fault : Shell.SyntaxFault) (origin : String) : Actor :=
  match a.s.dialect with
  | .posix => (a.leaveShell 2).report fault.line fault.message 2
  | .bash =>
    let origin := if origin = "" || a.s.origin = some origin then "" else origin ++ ": "
    let speaker := a.s.origin.getD a.s.name
    a.say 2 (String.join (fault.lines.map fun (line, text) =>
      speaker ++ ": " ++ origin ++ "line " ++ toString line ++ ": " ++ text ++ "\n")) 2

/-- Looks whether the last command failed: then the shell may have something to do, and may end. -/
def check (a : Actor) : Actor :=
  let status := a.s.status
  if status = 0 then a
  else
    let isActing := a.s.frames.any fun f => match f with | .status _ => true | _ => false
    let action :=
      if isActing || !(a.s.callers.isEmpty || a.s.options.isOn "errtrace") then none
      else a.s.errorAction
    let after := if a.s.options.stopsOnError then a.leaveShell status else a
    match action with
    | some action => ((after.push (.status status)).perform 1 "error trap" action).done status
    | none => after

def readMore (a : Actor) (r : Shell.ReadRequest) (line : Bytes) : Outcome :=
  let again (a : Actor) (line : Bytes) : Outcome := .goesOn (a.push (.read r line))
  let assign (a : Actor) (line : Bytes) (status : Nat) : Outcome :=
    .goesOn (a.assignLine r line status)
  if r.count = some 0 then assign a line 0
  else if r.deadline.any (· ≤ a.m.clock) then assign a line 142
  else
    match a.m.read (a.p.stream r.stream) 1 with
    | .blocked => .blocked
    | .atEnd => assign a line 1
    | .data bytes m =>
      let a : Actor := { a with m }
      let guards := endsGuarded r.raw line
      if bytes = [0] && r.delimiter ≠ 0 then again a line
      else if bytes = [r.delimiter] && !r.exact && !guards then assign a line 0
      else if bytes = [10] && guards then again a line.dropLast
      else
        let line := line ++ bytes
        let size := (guarded r.raw (Shell.textOf line).toList).length
        if r.count.any (· ≤ size) && !endsGuarded r.raw line then assign a line 0
        else again a line

def step (a : Actor) : Frame → Outcome
  | .run c =>
    if a.s.options.noRun then .goesOn a
    else
      let watches := (a.s.options.stopsOnError && !a.s.frames.isEmpty) || a.s.errorAction.isSome
      let a := if watches && canFail c && !a.isTested then a.push .check else a
      .goesOn (a.run c)
  | .onSuccess c => .goesOn (if a.s.status = 0 then a.push (.run c) else a)
  | .onFailure c => .goesOn (if a.s.status = 0 then a else a.push (.run c))
  | .invert => .goesOn { a with s := { a.s with status := if a.s.status = 0 then 1 else 0 } }
  | .branch yes no =>
    .goesOn (if a.s.status = 0 then a.push (.run yes)
      else if no = .nothing then a.done 0 else a.push (.run no))
  | .tested untilSuccess test body status =>
    if decide (a.s.status = 0) != untilSuccess then
      .goesOn ((a.push (.again untilSuccess test body)).push (.run body))
    else .goesOn (a.done status)
  | .again untilSuccess test body =>
    .goesOn ((a.push (.tested untilSuccess test body a.s.status)).push (.run test))
  | .each _ _ [] _ _ => .goesOn a
  | .each line name (v :: values) shown body =>
    let a := if a.s.dialect = .bash then a.trace ("for " ++ name ++ " in " ++ shown) else a
    match a.s.take name none false v with
    | .error x => .goesOn (a.choose (a.stop line x) (a.complain line x.text 1))
    | .ok s =>
      .goesOn (({ a with s }.push (.each line name values shown body)).push (.run body))
  | .counting line test step body =>
    match a.numberOf test 1 with
    | .error x => .goesOn (a.numberFailed line x)
    | .ok (n, s) =>
      let a := { a with s }.traceNumber test
      .goesOn (if n == 0 then a
        else (a.push (.counted line test step body)).push (.run body))
  | .counted line test step body =>
    match a.numberOf step 1 with
    | .error x => .goesOn (a.numberFailed line x)
    | .ok (_, s) => .goesOn (({ a with s }.traceNumber step).push (.counting line test step body))
  | .arms line text arms => .goesOn (a.chooseArm line text arms)
  | .restore saved => .goesOn { a with p := a.p.leadBack saved }
  | .leave parameters outer =>
    .goesOn { a with s := { a.s.restore outer with parameters, callers := a.s.callers.drop 1 } }
  | .leaveText _ origin parameters =>
    .goesOn { a with s := { a.s with
      origin, parameters := parameters.getD a.s.parameters } }
  | .check => .goesOn a.check
  | .revert earlier => .goesOn { a with s := a.s.restore earlier }
  | .await pid =>
    match a.m.reap pid with
    | none => if (a.m.proc? pid).isSome then .blocked else .goesOn a
    | some (word, m) => .goesOn ({ a with m }.ended pid word)
  | .awaitPipeline [] statuses => .goesOn (a.pipelineDone statuses)
  | .awaitPipeline (pid :: pids) statuses =>
    match a.m.reap pid with
    | none =>
      if (a.m.proc? pid).isSome then .blocked
      else .goesOn (a.push (.awaitPipeline pids (statuses ++ [0])))
    | some (word, m) =>
      let a := ({ a with m }.push (.awaitPipeline pids (statuses ++ [statusOf word])))
      let notice := if a.s.dialect = .posix then a.noticeOf pid word else ""
      .goesOn (if notice = "" then a else a.say 2 notice a.s.status)
  | .awaitAll [] _ => .goesOn a
  | .awaitAll (pid :: pids) wanted =>
    match a.m.reap pid with
    | none =>
      if (a.m.proc? pid).isSome then .blocked else .goesOn (a.push (.awaitAll pids wanted))
    | some (word, m) =>
      let a : Actor := { a with m }
      let status :=
        if wanted = some pid then statusOf word else if wanted.isNone then 0 else a.s.status
      let a := (a.done status).push (.awaitAll pids wanted)
      let tells :=
        match a.s.dialect with
        | .posix => decide (wanted = some pid)
        | .bash => decide (word % 128 ≠ Signal.term)
      let notice := if tells then a.noticeOf pid word else ""
      .goesOn (if notice = "" then a else a.say 2 notice status)
  | .awaitAny pids =>
    match pids.find? fun pid => (a.m.proc? pid).any (·.ended.isSome) with
    | some pid =>
      match a.m.reap pid with
      | some (word, m) =>
        let background := a.s.background.filter (· ≠ pid)
        .goesOn ({ a with m, s := { a.s with background } }.done (statusOf word))
      | none => .goesOn a
    | none => if pids.any fun pid => (a.m.proc? pid).isSome then .blocked else .goesOn a
  | .collect pipe output pid =>
    match a.m.readPipe pipe blockSize with
    | .data bytes m => .goesOn ({ a with m }.push (.collect pipe (bytes :: output) pid))
    | .blocked => .blocked
    | .atEnd =>
      match a.m.reap pid with
      | none => if (a.m.proc? pid).isSome then .blocked else .goesOn a
      | some (word, m) =>
        let all := output.reverse.flatten
        let text := ((all.filter (· ≠ 0)).reverse.dropWhile (· = 10)).reverse
        let m := { m with pipes := m.pipes.filter (·.1 ≠ pipe) }
        let received := a.s.received ++ [(Shell.textOf text, some (statusOf word))]
        let a : Actor := { a with
          m, p := a.p.setStream (1000 + pipe) none, s := { a.s with received } }
        let a : Actor :=
          if a.s.dialect = .bash && all.contains 0 then
            a.note 2 (a.s.lead a.s.line
              ++ "warning: command substitution: ignored null byte in input\n")
          else a
        let notice := if a.s.dialect = .posix then a.noticeOf pid word else ""
        .goesOn (if notice = "" then a else a.note 2 notice)
  | .write stream bytes status =>
    match a.m.write (a.p.stream stream) bytes with
    | .wrote n m =>
      let left := bytes.drop n
      let a : Actor := { a with m }
      .goesOn (if left.isEmpty then a.done status else a.push (.write stream left status))
    | .blocked => .blocked
    | .broken =>
      let m := a.m.deliver a.p.pid Signal.pipe
      if (m.proc? a.p.pid).any (·.ended.isNone) then .goesOn ({ a with m }.done 1)
      else .ends { a with m } Signal.pipe
  | .read request line => a.readMore request line
  | .readLines request input =>
    match a.m.read (a.p.stream request.stream) blockSize with
    | .blocked => .blocked
    | .atEnd => .goesOn (a.assignLines request input)
    | .data bytes m => .goesOn ({ a with m }.push (.readLines request (input ++ bytes)))
  | .status status => .goesOn (a.done status)
  | .script [] none _ => .goesOn a
  | .script [] (some fault) origin => .goesOn (a.syntaxFailed fault origin)
  | .script (c :: lines) fault origin =>
    let a := if lines.isEmpty && fault.isNone then a else a.push (.script lines fault origin)
    .goesOn (a.push (.run c))
  | .input line text =>
    let read (text : Bytes) : Shell.Script :=
      Shell.Script.ofText a.s.dialect line (Shell.textOf text)
    match a.m.read (a.p.stream 0) 1 with
    | .blocked => .blocked
    | .atEnd =>
      let script := read text
      .goesOn (a.push (.script script.lines script.fault ""))
    | .data bytes m =>
      let a : Actor := { a with m }
      let text := text ++ bytes
      let script := read text
      if bytes = [10] && !script.isUnfinished then
        .goesOn ((a.push (.input (line + text.count 10) [])).push
          (.script script.lines script.fault ""))
      else .goesOn (a.push (.input line text))
  | .exit status => a.finish status
  | .die signal => .ends a signal

/-- Puts a shell that has moved on back into its machine. What others have done to its process in
the meantime stays. -/
def commit (a : Actor) : Machine :=
  if a.replaced then a.m
  else
    a.m.modify a.p.pid fun p =>
      if p.ended.isSome then p
      else { a.p with program := .shell a.s, pending := p.pending, paused := p.paused }

end Actor

/-- One step of a shell; none if it has to wait. -/
def stepShell (m : Machine) (p : Proc) (s : Shell.State) : Option Machine :=
  let a : Actor := { m, p, s }
  match dueSignal? p s with
  | some signal => some (a.act signal).commit
  | none =>
    let isCollecting := match s.frames with | .collect .. :: _ => true | _ => false
    let outcome :=
      match s.frames with
      | [] => a.finish s.status
      | f :: rest => (a.withFrames rest).step f
    match outcome with
    | .blocked => none
    | .ends b word => some (b.m.finish p.pid word)
    | .goesOn b =>
      match b.waits with
      | some pending => some (a.begin_ pending).commit
      | none =>
        let received := if isCollecting then b.s.received else []
        some { b with s := { b.s with received } }.commit

end RLanguageHost.Machine
