import RLanguageHost.Files.Tree
import RLanguageHost.Machine.Handle
import RLanguageHost.Machine.Signal
import RLanguageHost.Shell.State
import RLanguageHost.Utility.Basic

/-!
# Machines

The machine that language servers run on, as far as a host can notice it: processes with their
streams, pipes between them, files, and a clock that is moved on. The host is a process of the
machine that is not written down; only the ends of pipes that it holds are.

A pipe ends for who reads it when nobody can write to it any more, and a write to a pipe that nobody
reads brings a signal.

The R program that the host starts may be any program of the machine. So that a run of the host can
be carried out to its end, with what its servers write and how they exit, the programs that stand in
for R are carried out too: `Machine.Interpreter` runs shells on their scripts, and `Machine.Tool`
runs the utilities that scripts call. What is proved of the host holds on every machine, whatever
its processes run; none of it looks inside a program.
-/

namespace RLanguageHost

namespace Machine

/-- A pipe: what was written and not yet read. -/
structure Pipe where
  /-- The bytes to be read next. -/
  front : Bytes := []
  /-- What was written after them, the last piece first. -/
  back : List Bytes := []
  size : Nat := 0
  deriving Repr, Inhabited

namespace Pipe

/-- The most bytes that a pipe holds. -/
def capacity : Nat := 65536

def push (p : Pipe) (bs : Bytes) : Pipe :=
  { p with back := bs :: p.back, size := p.size + bs.length }

/-- Takes at most so many bytes. -/
def pull (p : Pipe) (n : Nat) : Bytes × Pipe :=
  let all := if p.front.isEmpty then p.back.reverse.flatten else p.front
  let back := if p.front.isEmpty then [] else p.back
  let taken := all.take n
  (taken, { front := all.drop n, back, size := p.size - taken.length })

end Pipe

structure OpenFile where
  place : Place
  offset : Nat := 0
  /-- Whether all writes go to the end. -/
  appends : Bool := false
  deriving Repr, Inhabited

/-- Work on inputs that are read to their ends first. -/
structure Job where
  call : Utility.Call
  /-- The inputs that are still to be read. -/
  wanted : List String
  /-- What has been read of the input that is open, the last piece first. -/
  pieces : List Bytes := []
  current : Option Nat := none
  /-- The size of what has been read of it. -/
  size : Nat := 0
  /-- The size at which the job was looked at last. -/
  looked : Nat := 0
  /-- The size of what has been written. -/
  shown : Nat := 0
  /-- What is to be written before more is read. -/
  unwritten : Bytes := []
  deriving Repr, Inhabited

/-- What a program that has errands is doing. -/
inductive Stage where
  /-- It finds out what to do next. -/
  | thinking
  | writing (stream : Nat) (rest : Bytes)
  | receiving (most : Nat)
  /-- It waits for a command, and collects its output if that is led into a pipe. -/
  | running (pid : Nat) (pipe : Option Nat) (output : List Bytes)
  | busy
  deriving Repr, Inhabited

/-- A program that only reads, writes and waits. -/
inductive Tool where
  /-- Waits until a time. -/
  | sleep (deadline : Nat)
  /-- Writes pieces to streams and ends. -/
  | print (pieces : List (Nat × Bytes)) (status : Nat)
  /-- Copies files, or the standard input, to the standard output. -/
  | copy (operands : List String) (current : Option Nat) (rest : Bytes) (status : Nat)
  /-- Copies the first bytes or lines of a stream. -/
  | front (stream : Nat) (lines : Bool) (count : Nat) (rest : Bytes)
  /-- Copies the first bytes or lines of a device. -/
  | frontOf (path : String) (lines : Bool) (count : Nat)
  /-- Copies the standard input to several streams. -/
  | spread (streams : List Nat) (rest : List (Nat × Bytes)) (status : Nat)
  /-- Writes the same bytes again and again. -/
  | endless (bytes rest : Bytes)
  /-- Waits for a process, but not longer than until a time; then sends a signal. -/
  | limit (pid deadline : Nat) (signal : Signal) (expired : Bool)
  /-- Reads inputs and works on them. -/
  | gather (job : Job)
  /-- Asks for what it needs; the last reply comes first. -/
  | converse (call : Utility.Call) (replies : List Utility.Reply) (stage : Stage)
  deriving Repr, Inhabited

/-- What a process runs. -/
inductive Program where
  | shell (state : Shell.State)
  | tool (tool : Tool)
  deriving Repr, Inhabited

structure Proc where
  pid : Nat
  parent : Nat
  program : Program
  directory : Place
  streams : List (Nat × Handle) := []
  ignored : List Signal := []
  /-- Signals that the program will act on. -/
  pending : List Signal := []
  paused : Bool := false
  /-- The status word, once the process has ended. -/
  ended : Option Nat := none
  deriving Repr, Inhabited

end Machine

structure Machine where
  /-- Microseconds since the start. -/
  clock : Nat := 0
  tree : FileTree := {}
  pipes : List (Nat × Machine.Pipe) := []
  opened : List (Nat × Machine.OpenFile) := []
  procs : List Machine.Proc := []
  /-- The ends of pipes that the host holds. -/
  host : List Machine.Handle := []
  /-- Ports that the host listens on, with the connections that were made: for each the pipe that
  the host reads and the one that it writes. -/
  ports : List (Nat × List (Nat × Nat)) := []
  /-- The process that made the last step. -/
  current : Nat := 0
  nextPid : Nat := 48213
  nextNumber : Nat := 1
  deriving Repr, Inhabited

namespace Machine

/-- The number of the host's own process. -/
def hostPid : Nat := 1

def proc? (m : Machine) (pid : Nat) : Option Proc :=
  m.procs.find? (·.pid = pid)

def modify (m : Machine) (pid : Nat) (f : Proc → Proc) : Machine :=
  { m with procs := m.procs.map fun p => if p.pid = pid then f p else p }

/-- Gives a process something else to run. -/
def setProgram (m : Machine) (pid : Nat) (program : Program) : Machine :=
  m.modify pid fun p => { p with program }

def makePipe (m : Machine) : Nat × Machine :=
  (m.nextNumber,
    { m with pipes := (m.nextNumber, {}) :: m.pipes, nextNumber := m.nextNumber + 1 })

/-- The handles that a process holds: its streams, and those that its shell has put aside while some
command runs with other ones. -/
def Proc.held (p : Proc) : List Handle :=
  let aside : List Handle :=
    match p.program with
    | .tool _ => []
    | .shell s => s.frames.flatMap fun
      | .restore streams => streams.filterMap (·.2)
      | _ => []
  p.streams.map (·.2) ++ aside

/-- Whether somebody holds an end of a pipe. -/
def isHeld (m : Machine) (holds : Handle → Bool) : Bool :=
  m.host.any holds || m.procs.any fun p => p.ended.isNone && p.held.any holds

inductive ReadResult where
  | data (bytes : Bytes) (m : Machine)
  | atEnd
  | blocked

/-- Reads at most so many bytes from a pipe. -/
def readPipe (m : Machine) (pipe n : Nat) : ReadResult :=
  let p := (m.pipes.lookup pipe).getD {}
  if p.size = 0 then if m.isHeld (Handle.writes pipe) then .blocked else .atEnd
  else
    let (bytes, p) := p.pull n
    .data bytes { m with pipes := m.pipes.map fun q => if q.1 = pipe then (pipe, p) else q }

/-- The content of an opened file from where it is read on. -/
def remaining (m : Machine) (file : OpenFile) : Bytes :=
  match m.tree.entry? file.place with
  | some (.file content _) => content.drop file.offset
  | _ => []

def setOpened (m : Machine) (n : Nat) (file : OpenFile) : Machine :=
  { m with opened := m.opened.map fun o => if o.1 = n then (n, file) else o }

/-- So many bytes without order that follow from a number, and the number after them. -/
def noiseFrom (seed : Nat) : Nat → Bytes × Nat
  | 0 => ([], seed)
  | n + 1 =>
    let next := (seed * 6364136223846793005 + 1442695040888963407) % 18446744073709551616
    let (bytes, last) := noiseFrom next n
    (UInt8.ofNat (next / 72057594037927936) :: bytes, last)

/-- Reads at most so many bytes. -/
def read (m : Machine) (h : Handle) (n : Nat) : ReadResult :=
  match h with
  | .null | .sink _ => .atEnd
  | .zeros => .data (List.replicate n 0) m
  | .noise => .data ((noiseFrom m.clock n).1) m
  | .source pipe | .connection pipe _ => m.readPipe pipe n
  | .file k =>
    match m.opened.lookup k with
    | none => .atEnd
    | some file =>
      match (m.remaining file).take n with
      | [] => .atEnd
      | bytes => .data bytes (m.setOpened k { file with offset := file.offset + bytes.length })

inductive WriteResult where
  /-- So many bytes were written. -/
  | wrote (count : Nat) (m : Machine)
  | blocked
  /-- Nobody reads. -/
  | broken

/-- Writes to a pipe what it has room for. -/
def writePipe (m : Machine) (pipe : Nat) (bytes : Bytes) : WriteResult :=
  if !m.isHeld (Handle.reads pipe) then .broken
  else
    let p := (m.pipes.lookup pipe).getD {}
    let room := Pipe.capacity - p.size
    if room = 0 then .blocked
    else
      let taken := bytes.take room
      .wrote taken.length
        { m with pipes := m.pipes.map fun q => if q.1 = pipe then (pipe, p.push taken) else q }

def write (m : Machine) (h : Handle) (bytes : Bytes) : WriteResult :=
  if bytes.isEmpty then .wrote 0 m
  else
    match h with
    | .null | .zeros | .noise | .source _ => .wrote bytes.length m
    | .sink pipe | .connection _ pipe => m.writePipe pipe bytes
    | .file k =>
      match m.opened.lookup k with
      | none => .wrote bytes.length m
      | some file =>
        match m.tree.entry? file.place with
        | some (.file content executable) =>
          let offset := if file.appends then content.length else file.offset
          let content :=
            if offset = content.length then content ++ bytes
            else content.take offset ++ List.replicate (offset - content.length) 0 ++ bytes
              ++ content.drop (offset + bytes.length)
          let m := { m with tree := m.tree.put file.place (.file content executable) }
          .wrote bytes.length (m.setOpened k { file with offset := offset + bytes.length })
        | _ => .wrote bytes.length m

def openFile (m : Machine) (file : OpenFile) : Handle × Machine :=
  (.file m.nextNumber,
    { m with opened := (m.nextNumber, file) :: m.opened, nextNumber := m.nextNumber + 1 })

def Proc.stream (p : Proc) (n : Nat) : Handle :=
  (p.streams.lookup n).getD .null

/-- Leads a stream of a process elsewhere, or closes it. -/
def Proc.setStream (p : Proc) (n : Nat) (h : Option Handle) : Proc :=
  { p with streams := (h.map (n, ·)).toList ++ p.streams.filter (·.1 ≠ n) }

/-- A process ends with a status word. Nobody waits for the children of a process that has ended. -/
def finish (m : Machine) (pid status : Nat) : Machine :=
  let m := m.modify pid fun p => { p with ended := some status, streams := [] }
  { m with procs := m.procs.filterMap fun p =>
      if p.parent = pid then if p.ended.isSome then none else some { p with parent := 0 }
      else if p.pid = pid && p.parent = 0 then none
      else some p }

/-- The status word of a child that has ended, which is then forgotten. -/
def reap (m : Machine) (pid : Nat) : Option (Nat × Machine) := do
  let p ← m.proc? pid
  let status ← p.ended
  return (status, { m with procs := m.procs.filter (·.pid ≠ pid) })

/-- Whether the program of a process acts on a signal itself. Before a signal ends the larger shell,
it does what it is to do at its end. -/
def Proc.handles (p : Proc) (signal : Signal) : Bool :=
  match p.program with
  | .tool _ => false
  | .shell s =>
    match s.actions.lookup signal with
    | some action => action ≠ ""
    | none =>
      s.dialect = .bash && signal.effect = .ends && (s.actions.lookup 0).any (· ≠ "")

/-- Whether a signal does nothing to a process. -/
def Proc.disregards (p : Proc) (signal : Signal) : Bool :=
  p.ignored.contains signal ||
    match p.program with
    | .tool _ => false
    | .shell s =>
      s.dialect = .bash && signal = Signal.quit && (s.actions.lookup signal).isNone

def deliver (m : Machine) (pid : Nat) (signal : Signal) : Machine :=
  match m.proc? pid with
  | none => m
  | some p =>
    if p.ended.isSome || signal = 0 then m
    else
      let m :=
        if signal = Signal.resume then m.modify pid fun p => { p with paused := false } else m
      if signal.canBeHandled && p.disregards signal then m
      else if signal.canBeHandled && p.handles signal then
        m.modify pid fun p => { p with pending := p.pending ++ [signal] }
      else
        match signal.effect with
        | .ends => m.finish pid signal
        | .nothing => m
        | .pauses => m.modify pid fun p => { p with paused := true }

/-- Adds a process that does what another one does, but for what is changed in it. -/
def fork (m : Machine) (p : Proc) (f : Proc → Proc) : Nat × Machine :=
  let pid := m.nextPid
  let child := f
    { p with pid, parent := p.pid, pending := [], streams := p.streams.filter (·.1 < 1000) }
  (pid, { m with procs := m.procs ++ [child], nextPid := pid + 1 })

/-- The status of a command whose process ended with a status word. -/
def statusOf (word : Nat) : Nat :=
  if word % 128 = 0 then word / 256 % 256 else 128 + word % 128

end Machine

def FileTree.path (place : Place) : FilePath :=
  ⟨if place.isEmpty then [FilePath.slash] else place.flatMap (FilePath.slash :: ·)⟩

end RLanguageHost
