import RLanguageHost.Files.Failure

/-!
# Errors of child processes

Why a process cannot be started, stopped or talked to, and why a language server cannot be launched.
-/

namespace RLanguageHost

namespace Child

/-- Why a call on a process fails. -/
inductive Error where
  | input (failure : Failure)
  | notStarted
  | alreadyStarted
  | noStdin
  | noStdout
  | noStderr
  /-- The process has no standard streams to talk over. -/
  | detached
  deriving Repr, DecidableEq, Inhabited

def Error.message : Error → String
  | .input failure => "I/O error: " ++ failure.message
  | .notStarted => "Process not started"
  | .alreadyStarted => "Process already started"
  | .noStdin => "Stdin not available"
  | .noStdout => "Stdout not available"
  | .noStderr => "Stderr not available"
  | .detached => "Process stdio is detached, no stdio transport available"

end Child

namespace Server

/-- Why a language server cannot be launched. -/
inductive LaunchError where
  | listen (failure : Failure)
  | accept (failure : Failure)
  | process (error : Child.Error)
  deriving Repr, DecidableEq, Inhabited

def LaunchError.message : LaunchError → String
  | .listen failure => "Failed to listen on loopback: " ++ failure.message
  | .accept failure => "Failed to accept the server connection: " ++ failure.message
  | .process error => "Process error: " ++ error.message

end Server

end RLanguageHost
