import RLanguageHost.Registry
import RLanguageHost.Session.Error
import RLanguageHost.Workspace

/-!
# Handlers

What is done about a document that was opened or closed and about folders that were removed. A
handler runs until it has to wait for a session to be started or stopped, and goes on when that has
happened. Between, other handlers may run; the registry is all that they share.

Each part of a handler that runs without waiting is one function here.
-/

namespace RLanguageHost.Lifecycle

/-- What comes of opening a document. -/
inductive Activation where
  /-- No server serves the document. -/
  | ignored
  | alreadyHandled
  | started (key : ScopeKey)
  deriving Repr, DecidableEq

/-- What comes of closing a document. -/
inductive Release where
  /-- Other open documents still need the session. -/
  | retained
  | noSession
  | stopped (key : ScopeKey)
  deriving Repr, DecidableEq

/-- How a handler ends. -/
inductive Outcome where
  | opened (activation : Activation)
  | closed (release : Release)
  /-- The sessions of these folders were stopped. -/
  | foldersRemoved (keys : List ScopeKey)
  | failed (error : Session.Error)

/-- What a handler waits for. -/
inductive Waiting where
  /-- A session for a scope is being started. -/
  | start (scope : Scope)
  /-- The session of a closed document is being stopped. -/
  | stop (key : ScopeKey) (session : Nat)
  /-- The session of a removed folder is being stopped; more folders follow. -/
  | removal (key : ScopeKey) (session : Nat) (rest : List Folder) (stopped : List ScopeKey)
  deriving Repr

/-- The session that a handler waits for to stop. -/
def Waiting.session? : Waiting → Option Nat
  | .start _ => none
  | .stop _ session | .removal _ session _ _ => some session

/-- How a part of a handler ends. -/
inductive Progress where
  | finished (outcome : Outcome)
  | suspended (waiting : Waiting)

/-- The session that a part of a handler leaves to be stopped. -/
def Progress.session? : Progress → Option Nat
  | .finished _ => none
  | .suspended waiting => waiting.session?

/-- What handlers look at and do not change. -/
structure View where
  home : FilePath
  workspace : Workspace
  /-- Whether a session still needs to be stopped. -/
  live : Nat → Bool

def openDocument (view : View) (r : Registry) (d : Document) : Progress × Registry :=
  match view.workspace.resolve view.home d with
  | none => (.finished (.opened .ignored), r)
  | some scope =>
    match r.begin view.live scope.key with
    | (.handled, r) => (.finished (.opened .alreadyHandled), r)
    | (.proceed, r) => (.suspended (.start scope), r)

/-- The session for an opened document was started, or failed to start. -/
def finishOpen (r : Registry) (key : ScopeKey) (result : Except Session.Error Nat) :
    Outcome × Registry :=
  match result with
  | .ok session => (.opened (.started key), r.complete key session)
  | .error e => (.failed e, r.abandon key)

/-- Whether the session of a document that is closed is still needed: an untitled document shares it
with all others, a cell with those of its notebook. -/
def stillNeeded (w : Workspace) (d : Document) : Bool :=
  let others := w.documents.filter (·.uri.text ≠ d.uri.text)
  if d.isUntitled then others.any (·.isUntitled)
  else if d.isCell then others.any (·.sameNotebook d)
  else false

def closeDocument (view : View) (r : Registry) (d : Document) : Progress × Registry :=
  if stillNeeded view.workspace d then (.finished (.closed .retained), r)
  else
    let key := ScopeKey.ofClosed d
    match r.remove key with
    | (none, r) => (.finished (.closed .noSession), r)
    | (some session, r) => (.suspended (.stop key session), r)

/-- The session of a closed document was stopped, or failed to stop. -/
def finishClose (key : ScopeKey) (result : Except Session.Error Unit) : Outcome :=
  match result with
  | .ok () => .closed (.stopped key)
  | .error e => .failed e

/-- Folders were removed: their sessions are stopped one after the other. -/
def removeFolders (r : Registry) (stopped : List ScopeKey) : List Folder → Progress × Registry
  | [] => (.finished (.foldersRemoved stopped), r)
  | folder :: rest =>
    let key := ScopeKey.ofFolder folder
    match r.remove key with
    | (none, r) => removeFolders r stopped rest
    | (some session, r) => (.suspended (.removal key session rest stopped), r)

/-- The session of a removed folder was stopped. The folder counts as stopped also if that failed.
-/
def finishRemoval (r : Registry) (key : ScopeKey) (rest : List Folder) (stopped : List ScopeKey) :
    Progress × Registry :=
  removeFolders r (stopped ++ [key]) rest

/-- A handler that waited is given up. -/
def abandon (r : Registry) (waiting : Waiting) : Registry :=
  match waiting with
  | .start scope => r.abandon scope.key
  | .stop .. | .removal .. => r

end RLanguageHost.Lifecycle
