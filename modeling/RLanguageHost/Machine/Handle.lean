/-!
# Handles

What a numbered stream of a process leads to. Pipes and opened files live in the machine and are
meant by their numbers, so that several streams can lead to one of them.
-/

namespace RLanguageHost.Machine

inductive Handle where
  /-- Nothing can be read, and all that is written is dropped. -/
  | null
  /-- Zeros can be read without end. -/
  | zeros
  /-- Bytes without order can be read without end. -/
  | noise
  /-- The end of a pipe that is read. -/
  | source (pipe : Nat)
  /-- The end of a pipe that is written. -/
  | sink (pipe : Nat)
  /-- A connection: a pipe that is read and one that is written. -/
  | connection (source sink : Nat)
  /-- A file that was opened. -/
  | file (opened : Nat)
  deriving Repr, DecidableEq, Inhabited

def deviceAt? (path : String) : Option Handle :=
  [("/dev/null", Handle.null), ("/dev/zero", .zeros), ("/dev/urandom", .noise),
    ("/dev/random", .noise)].lookup path

/-- Whether there is no end to what can be read. -/
def Handle.isEndless (h : Handle) : Bool :=
  h = .zeros || h = .noise

/-- Whether a handle holds the reading end of a pipe. -/
def Handle.reads (pipe : Nat) : Handle → Bool
  | .source p => p = pipe
  | .connection p _ => p = pipe
  | _ => false

/-- Whether a handle holds the writing end of a pipe. -/
def Handle.writes (pipe : Nat) : Handle → Bool
  | .sink p => p = pipe
  | .connection _ p => p = pipe
  | _ => false

end RLanguageHost.Machine
