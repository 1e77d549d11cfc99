import RLanguageHost.Child.Supervisor
import RLanguageHost.Host.Event
import RLanguageHost.Json.Basic
import RLanguageHost.Lifecycle.State
import RLanguageHost.Log.Config
import RLanguageHost.Output
import RLanguageHost.Server.Command
import RLanguageHost.Session.Status
import RLanguageHost.Settings

/-!
# Reports

The values of the host as JSON, for whoever looks at it from outside. What is absent is `null`.
Bytes are a text where they are one, and hexadecimal digits otherwise.
-/

namespace RLanguageHost.Report

def option {α : Type} (f : α → Json) (x : Option α) : Json :=
  (x.map f).getD .null

def list {α : Type} (f : α → Json) (xs : List α) : Json :=
  .arr (xs.map f)

def nat (n : Nat) : Json :=
  .int n

def strings (texts : List String) : Json :=
  list .str texts

def hex (bs : Bytes) : String :=
  String.ofList (bs.flatMap fun b =>
    [Nat.digitChar (b.toNat / 16), Nat.digitChar (b.toNat % 16)])

def bytes (bs : Bytes) : Json :=
  match Utf8.decode? bs with
  | some text => .str (String.ofList text)
  | none => .obj [("bytes", .str (hex bs))]

def path (p : FilePath) : Json :=
  bytes p.bytes

def filter (f : Filter) : Json :=
  .obj [("scheme", option .str f.scheme), ("language", option .str f.language),
    ("pattern", option .str f.pattern)]

def folder (f : Folder) : Json :=
  .obj [("uri", .str f.uri.text), ("name", .str f.name)]

def document (d : Document) : Json :=
  .obj [("uri", .str d.uri.text), ("language", .str d.language)]

def kindName : ScopeKind → String
  | .notebook => "notebook"
  | .workspaceFolder => "workspaceFolder"
  | .untitled => "untitled"
  | .strayFile => "strayFile"

def scopeMembers (s : Scope) : List (String × Json) :=
  [("key", .str s.key.text), ("kind", .str (kindName s.kind)), ("selector", list filter s.selector),
    ("working_directory", path s.workingDirectory), ("workspace_folder", option folder s.folder)]

def scope (s : Scope) : Json :=
  .obj (scopeMembers s)

def workspace (w : Workspace) : Json :=
  .obj [("folders", list folder w.folders), ("documents", list document w.documents)]

def settings (s : Settings) : Json :=
  .obj [("debug", .bool s.debug), ("use_stdio", .bool s.useStdio), ("args", strings s.args),
    ("lang", .str s.lang), ("path", option .str s.path)]

/-- The members of a server command, for a port that the server is to connect to. -/
def commandMembers (c : Server.Command) (port : Option Nat) : List (String × Json) :=
  [("program", .str c.program), ("base_args", strings c.baseArgs), ("debug", .bool c.debug),
    ("lang", option .str c.lang), ("working_directory", path c.workingDirectory),
    ("run_expression", .str (c.expression port)), ("arguments", strings (c.arguments port))]

def exit (e : Exit) : Json :=
  .obj [("code", option .int e.code), ("signal", option .int e.signal),
    ("success", .bool e.isSuccess), ("describe", .str e.describe)]

/-- The name of a stage of a session's life. -/
def statusName : Session.Status → String
  | .starting => "starting"
  | .running => "running"
  | .stopping => "stopping"
  | .stopped => "stopped"

def stateName : Child.State → String
  | .notStarted => "not_started"
  | .running _ => "running"
  | .stopped => "stopped"

def logConfig (c : Log.Config) : Json :=
  .obj [("level", .str c.level), ("file", option path c.file), ("json", .bool c.json)]

def event : HostEvent → Json
  | .opened d =>
    .obj [("event", .str "didOpen"), ("uri", .str d.uri.text), ("languageId", .str d.language)]
  | .closed uri => .obj [("event", .str "didClose"), ("uri", .str uri.text)]
  | .foldersChanged added removed =>
    .obj [("event", .str "workspaceFolders"), ("added", list folder added),
      ("removed", list folder removed)]
  | .deactivate => .obj [("event", .str "deactivate")]

/-- Keys. -/
def keys (ks : List ScopeKey) : Json :=
  strings (ks.map (·.text))

/-- The state of the host between the parts of its handlers. -/
def state (s : Lifecycle.State) : Json :=
  let marked := (s.attempts.filter s.registry.isMarked).eraseDups.mergeSort
    fun a b => decide (a.text ≤ b.text)
  .obj [("keys", keys s.registry.keys), ("initializing", nat s.registry.marked.length),
    ("marked", keys marked), ("attempts", nat s.attempts.length),
    ("sessions", list (fun m => .arr [.str m.scope.key.text, .bool m.live, nat m.stops]) s.fleet)]

end RLanguageHost.Report
