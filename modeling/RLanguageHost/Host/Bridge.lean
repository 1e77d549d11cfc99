import RLanguageHost.Host.Event
import RLanguageHost.Lifecycle.State
import RLanguageHost.Text.Blank
import RLanguageHost.Text.Lines

/-!
# The stream of events

Events come one on a line. Blank lines and lines that hold no event are passed over; the stream ends
at its end, at a `deactivate` event, or at a line that is no text.

An event changes the workspace at once. What else is to be done about it is a job, which a handler
carries out.
-/

namespace RLanguageHost.Host

def dispatch (w : Workspace) : HostEvent → Workspace × Option Lifecycle.State.Job
  | .opened d => (w.openDocument d, some (.openDocument d))
  | .closed uri =>
    let d := (w.document? uri).getD { uri, language := "" }
    (w.closeDocument uri, some (.closeDocument d))
  | .foldersChanged added removed =>
    let w := added.foldl Workspace.addFolder w
    let w := removed.foldl (fun w folder => w.removeFolder folder.uri) w
    (w, if removed.isEmpty then none else some (.removeFolders removed))
  | .deactivate => (w, none)

/-- The jobs that open the documents of a workspace. -/
def activation (w : Workspace) : List Lifecycle.State.Job :=
  w.documents.map .openDocument

inductive Line where
  | event (event : HostEvent)
  /-- There is nothing on the line, or nothing that can be understood. -/
  | ignored
  /-- The line is no text. -/
  | unreadable (failure : Failure)
  deriving Repr, DecidableEq

/-- Reads a line. Its end is white space and changes nothing. -/
def readLine (line : Bytes) : Line :=
  match Utf8.fault? line, Utf8.wellFormedPrefix line with
  | some fault, _ => .unreadable (.malformed fault.1 fault.2)
  | none, (text, _) =>
    if (Text.trim text).isEmpty then .ignored
    else
      match HostEvent.ofText text with
      | .ok event => .event event
      | .error _ => .ignored

/-- Why the host stops before the end of its events. -/
inductive Error where
  | input (failure : Failure)
  deriving Repr, DecidableEq

def Error.message : Error → String
  | .input failure => "Failed to read host events: " ++ failure.message

end RLanguageHost.Host
