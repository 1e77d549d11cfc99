import RLanguageHost.Client
import RLanguageHost.Duration
import RLanguageHost.Child.Error
import RLanguageHost.Settings

/-!
# Errors of sessions

Why a session with a language server cannot be started, used or stopped.
-/

namespace RLanguageHost.Session

/-- Why a call on a session fails. -/
inductive Error where
  | settings (error : Settings.Error)
  | launch (error : Server.LaunchError)
  | process (error : Child.Error)
  | client (error : Client.Error)
  /-- The server did not connect in time. -/
  | connectTimeout (scope : String) (limit : Duration)
  | stopped (scope : String)
  | startupFailed (reason : String)

def Error.message : Error → String
  | .settings error => "Settings error: " ++ error.message
  | .launch error => "Launch error: " ++ error.message
  | .process error => "Process error: " ++ error.message
  | .client error => "Client error: " ++ error.message
  | .connectTimeout scope limit =>
    "R language server for " ++ scope ++ " did not connect within " ++ limit.text
  | .stopped scope => "Session for " ++ scope ++ " is stopped"
  | .startupFailed reason => "Session startup failed: " ++ reason

end RLanguageHost.Session
