/-!
# Failures of the operating system

Why a file cannot be opened, a program not be started or a stream not be read or written. Failures
that the system numbers are worded with their number.
-/

namespace RLanguageHost

inductive SystemFault where
  | noEntry
  | noExecutable
  | denied
  | notDirectory
  | isDirectory
  | brokenPipe
  | nameTooLong
  deriving Repr, DecidableEq, Inhabited

namespace SystemFault

def number : SystemFault → Nat
  | .noEntry => 2
  | .noExecutable => 8
  | .denied => 13
  | .notDirectory => 20
  | .isDirectory => 21
  | .brokenPipe => 32
  | .nameTooLong => 36

def description : SystemFault → String
  | .noEntry => "No such file or directory"
  | .noExecutable => "Exec format error"
  | .denied => "Permission denied"
  | .notDirectory => "Not a directory"
  | .isDirectory => "Is a directory"
  | .brokenPipe => "Broken pipe"
  | .nameTooLong => "File name too long"

def message (fault : SystemFault) : String :=
  fault.description ++ " (os error " ++ toString fault.number ++ ")"

end SystemFault

inductive Failure where
  | system (fault : SystemFault)
  /-- What was read as text is not UTF-8. -/
  | notText
  /-- What was read as text is not UTF-8 from an index on; `length` is that of the malformed
  sequence, unless the end cuts it. -/
  | malformed (index : Nat) (length : Option Nat)
  /-- A file name has a NUL. -/
  | nulInName
  /-- A program's name, argument or environment has a NUL. -/
  | nulInData
  /-- A failure that its reporter words. -/
  | custom (text : String)
  deriving Repr, DecidableEq, Inhabited

namespace Failure

def message : Failure → String
  | .system fault => fault.message
  | .notText => "stream did not contain valid UTF-8"
  | .malformed index (some length) =>
    "invalid utf-8 sequence of " ++ toString length ++ " bytes from index " ++ toString index
  | .malformed index none => "incomplete utf-8 byte sequence from index " ++ toString index
  | .nulInName => "file name contained an unexpected NUL byte"
  | .nulInData => "nul byte found in provided data"
  | .custom text => text

end Failure

end RLanguageHost
