/-!
# Session status

The stages of a session's life. A session that is starting or running still needs to be stopped, and
whoever begins the stop first is the only one to carry it out.
-/

namespace RLanguageHost.Session

/-- A stage of a session's life. -/
inductive Status where
  | starting
  | running
  | stopping
  | stopped
  deriving Repr, DecidableEq, Inhabited

namespace Status

def needsStop : Status → Bool
  | .starting | .running => true
  | .stopping | .stopped => false

/-- The place of a stage in a session's life. -/
def stage : Status → Nat
  | .starting => 0
  | .running => 1
  | .stopping => 2
  | .stopped => 3

/-- A write to the status of a session. -/
inductive Write where
  /-- Whatever the status was. -/
  | set (value : Status)
  /-- Only from a given status. -/
  | transition (source target : Status)
  /-- To `stopping`, if the session still needs to be stopped. -/
  | beginStop
  deriving Repr, DecidableEq

def Write.applies : Write → Status → Bool
  | .set _, _ => true
  | .transition source _, status => status = source
  | .beginStop, status => status.needsStop

/-- The status that a write leads to when it takes place. -/
def Write.target : Write → Status
  | .set value => value
  | .transition _ target => target
  | .beginStop => .stopping

def write (status : Status) (w : Write) : Status :=
  if w.applies status then w.target else status

end Status

end RLanguageHost.Session
