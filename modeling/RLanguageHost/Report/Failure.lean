import RLanguageHost.Json.Reader
import RLanguageHost.Report.Basic
import RLanguageHost.Session.Error

/-!
# Reports of errors

An error as JSON: its kind and its wording. In the place of the wording, an error that comes from a
text that is not JSON says whether the text ended too early.
-/

namespace RLanguageHost.Report

def failure (kind message : String) : Json :=
  .obj [("error", .str kind), ("message", .str message)]

def malformed (kind : String) (fault : Json.SyntaxError) : Json :=
  .obj [("error", .str kind), ("category", .str (if fault.isEarlyEnd then "eof" else "syntax"))]

/-- A text that is no URI. -/
def uriError (e : Uri.ParseError) : Json :=
  failure "UrlParse" e.message

/-- A text that is not JSON, or JSON of another shape than is asked for. -/
def jsonError (kind : String) : Json.Error → Json
  | .invalid fault => malformed kind fault
  | .shape e => failure kind e.message

/-- Why a process cannot be started, stopped or talked to. -/
def childError (e : Child.Error) : Json :=
  failure (match e with
    | .input _ => "Io"
    | .notStarted => "NotStarted"
    | .alreadyStarted => "AlreadyStarted"
    | .noStdin => "StdinNotAvailable"
    | .noStdout => "StdoutNotAvailable"
    | .noStderr => "StderrNotAvailable"
    | .detached => "StdioDetached") e.message

/-- Why a channel cannot be used. -/
def channelError (e : Channel.Error) : Json :=
  failure (match e with
    | .input _ => "Io"
    | .disconnected => "Disconnected"
    | .broken _ => "Channel") e.message

/-- Why no message can be taken from a channel. -/
def frameError (e : Frame.Error) : Json :=
  failure (match e with
    | .channel _ => "Transport"
    | .invalidFormat _ => "InvalidFormat"
    | .invalidLength _ => "InvalidContentLength"
    | .tooLarge .. => "MessageTooLarge"
    | .closed => "Closed") e.message

def clientError (e : Client.Error) : Json :=
  match e with
  | .json fault => malformed "Json" fault
  | .framing _ => failure "Framing" e.message
  | .server .. => failure "Server" e.message

/-- Why settings cannot be used. -/
def settingsError (e : Settings.Error) : Json :=
  match e with
  | .read .. => failure "Read" e.message
  | .parse (.invalid fault) => malformed "Parse" fault
  | .parse (.shape _) => failure "Parse" e.message
  | .invalidPath _ => failure "InvalidPath" e.message
  | .invalidArgument .. => failure "InvalidArgument" e.message

/-- Why a session cannot be started, used or stopped. -/
def sessionError (e : Session.Error) : Json :=
  match e with
  | .settings (.parse (.invalid fault)) => malformed "Settings" fault
  | .settings _ => failure "Settings" e.message
  | .launch _ => failure "Launch" e.message
  | .process _ => failure "Process" e.message
  | .client (.json fault) => malformed "Client" fault
  | .client _ => failure "Client" e.message
  | .connectTimeout .. => failure "ConnectTimeout" e.message
  | .stopped _ => failure "Stopped" e.message
  | .startupFailed _ => failure "StartupFailed" e.message

def outcome : Lifecycle.Outcome → Json
  | .opened .ignored => .str "ignored"
  | .opened .alreadyHandled => .str "already_handled"
  | .opened (.started key) => .obj [("started", .str key.text)]
  | .closed .retained => .str "retained"
  | .closed .noSession => .str "no_session"
  | .closed (.stopped key) => .obj [("stopped", .str key.text)]
  | .foldersRemoved stopped => keys stopped
  | .failed e => sessionError e

/-- What a call gives, or why it fails. -/
def result {ε α : Type} (failed : ε → Json) (done : α → Json) : Except ε α → Json
  | .ok x => done x
  | .error e => failed e

/-- What an attempt gives, why it fails, or that it has to wait. -/
def attempt {ε α : Type} (failed : ε → Json) (done : α → Json) : Attempt ε α → Json
  | .done x => done x
  | .failed e => failed e
  | .waiting => .str "pending"

end RLanguageHost.Report
