import RLanguageHost.CommandLine
import RLanguageHost.Host.Service
import RLanguageHost.Log.Config
import RLanguageHost.Log.Entry

/-!
# The program

A run of the host from its command line on: first the log is opened, then the settings are loaded,
and then the service runs over the events. The first of these that fails ends the run.
-/

namespace RLanguageHost.Host

inductive Ending where
  /-- The command line is not carried out. -/
  | refused (refusal : CommandLine.Refusal)
  /-- The log cannot be opened. -/
  | noLog (failure : Failure)
  | noSettings (error : Settings.Error)
  | interrupted (error : Error)
  | finished

namespace Ending

def code : Ending → Nat
  | .refused .help | .refused .version | .finished => 0
  | .refused _ => 2
  | .noLog _ | .noSettings _ | .interrupted _ => 1

/-- Whether the program prints what was asked for in the place of a run. -/
def printsText : Ending → Bool
  | .refused .help | .refused .version => true
  | _ => false

/-- What the program has to say about a failure to begin. -/
def complaint? : Ending → Option String
  | .noLog failure => some ("Failed to initialize logging: " ++ failure.message)
  | .noSettings error => some ("Failed to load settings: " ++ error.message)
  | _ => none

end Ending

structure Outcome where
  ending : Ending
  machine : Machine

def variableOf (around : Machine.Surroundings) (name : String) : Option String :=
  around.environment.lookup name

/-- The home directory when the environment names none. -/
def fallbackHome : String := "/root"

def homeDirectory (around : Machine.Surroundings) : FilePath :=
  .ofString (((variableOf around "HOME").filter (· ≠ "")).getD fallbackHome)

def installationVariable : String := "R_HOME"

def serviceOf (m : Machine) (around : Machine.Surroundings) (line : CommandLine)
    (settings : Settings) : Service where
  setup := {
    settings, around
    finder := Server.program m.tree around.directory
      ((variableOf around installationVariable).map .ofString)
    inherited := variableOf around Server.langVariable
    connectLimit := line.connectTimeoutSeconds.map .ofSeconds }
  state := { home := homeDirectory around, workspace := line.workspace around.directory }

/-- The entries that a filter lets through. -/
def logged (filter : Log.Filter) (remarks : List Remark) : List Log.Entry :=
  remarks.filterMap fun r =>
    let e := Log.Entry.ofOutput r.event
    if filter.allows e.target r.span e.level then some e else none

/-- The machine with entries at the end of the log file. -/
def writeLog (m : Machine) (place : Option Place) (json : Bool) (entries : List Log.Entry) :
    Machine :=
  match place with
  | none => m
  | some place =>
    let text := String.join (entries.map fun e => e.line json ++ "\n")
    { m with tree := m.tree.appendAt place (bytesOf text) }

/-- A run of the host whose command line has been read. -/
def runLine (m : Machine) (around : Machine.Surroundings) (line : CommandLine) (input : Bytes) :
    Outcome :=
  let config := (Log.Config.ofEnvironment (fun v => variableOf around v.name)
    (toString Machine.hostPid)).override line.logLevel line.logFile
  match config.openFile m.tree around.directory with
  | .error failure => { ending := .noLog failure, machine := m }
  | .ok place =>
    let m := writeLog m place config.json []
    match line.loadSettings m.tree around.directory with
    | .error e => { ending := .noSettings e, machine := m }
    | .ok settings =>
      let (result, m, s) := (serviceOf m around line settings).run m input
      let log := logged (.ofText config.level) s.remarks
      { ending := match result with
          | .ok () => .finished
          | .error e => .interrupted e
        machine := writeLog m place config.json log }

def run (m : Machine) (around : Machine.Surroundings) (words : List String) (input : Bytes) :
    Outcome :=
  match CommandLine.parse words with
  | .error refusal => { ending := .refused refusal, machine := m }
  | .ok line => runLine m around line input

end RLanguageHost.Host
