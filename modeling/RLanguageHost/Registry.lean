import RLanguageHost.Scope.Basic

/-!
# Registries

A registry holds the sessions by the keys of their scopes, and the keys that are marked because a
session for them is being started. Whether to start a session and marking its key are one step, so
that two documents of one scope do not start two sessions.

The mark is set by every check that finds the key unmarked, also by one that is answered by a
running session. It is cleared when a session is stored, when a start is abandoned, and when the key
is removed.

A `Desk` is a registry in use: through checks, through the guards that checks hand out, and through
removals and drains. Several guards of one key may be held at once, and a guard may be used after
its key was cleared and marked again.
-/

namespace RLanguageHost

/-- Sessions by key, in the order of the keys, and the marked keys. A session goes by its number. -/
structure Registry where
  sessions : List (ScopeKey × Nat) := []
  marked : List ScopeKey := []
  deriving Repr, DecidableEq, Inhabited

namespace Registry

/-- What a check says. -/
inductive Check where
  /-- There is a session, or one is being started. -/
  | handled
  /-- The caller is to start a session. -/
  | proceed
  deriving Repr, DecidableEq

def get? (r : Registry) (key : ScopeKey) : Option Nat :=
  r.sessions.lookup key

def isMarked (r : Registry) (key : ScopeKey) : Bool :=
  r.marked.contains key

def mark (r : Registry) (key : ScopeKey) : Registry :=
  if r.isMarked key then r else { r with marked := r.marked ++ [key] }

def unmark (r : Registry) (key : ScopeKey) : Registry :=
  { r with marked := r.marked.filter (· ≠ key) }

/-- Decides whether a session is to be started for a key, and marks the key. -/
def begin (r : Registry) (live : Nat → Bool) (key : ScopeKey) : Check × Registry :=
  if r.isMarked key then (.handled, r)
  else if (r.get? key).any live then (.handled, r.mark key)
  else (.proceed, r.mark key)

/-- Puts a session under a key, in the order of the keys and in the place of one with that key. -/
def insert (key : ScopeKey) (session : Nat) : List (ScopeKey × Nat) → List (ScopeKey × Nat)
  | [] => [(key, session)]
  | (k, s) :: rest =>
    if key.text < k.text then (key, session) :: (k, s) :: rest
    else if key = k then (key, session) :: rest
    else (k, s) :: insert key session rest

/-- Stores a session that was started for a key. -/
def complete (r : Registry) (key : ScopeKey) (session : Nat) : Registry :=
  { r.unmark key with sessions := insert key session r.sessions }

def abandon (r : Registry) (key : ScopeKey) : Registry :=
  r.unmark key

/-- Takes out the session under a key. -/
def remove (r : Registry) (key : ScopeKey) : Option Nat × Registry :=
  (r.get? key, { r.unmark key with sessions := r.sessions.filter (·.1 ≠ key) })

/-- Takes out all sessions and clears all marks. -/
def drain (r : Registry) : List (ScopeKey × Nat) × Registry :=
  (r.sessions, {})

def keys (r : Registry) : List ScopeKey :=
  r.sessions.map (·.1)

/-! ## A registry in use -/

/-- A call on a registry or on a guard that it handed out, or the death of a session. Guards and
sessions go by their numbers. -/
inductive Call where
  | begin (key : ScopeKey)
  /-- Stores a session, which may be dead already. -/
  | complete (guard : Nat) (live : Bool)
  | drop (guard : Nat)
  | remove (key : ScopeKey)
  | drain
  | died (session : Nat)

/-- A registry in use: the guards that it handed out, with the keys of those that are held, and
which of the sessions that were stored live. -/
structure Desk where
  registry : Registry := {}
  guards : List (Option ScopeKey) := []
  live : List Bool := []

namespace Desk

def isLive (d : Desk) (session : Nat) : Bool :=
  d.live[session]?.getD false

def guardKey? (d : Desk) (guard : Nat) : Option ScopeKey :=
  d.guards[guard]?.join

/-- Whether a live session is stored under a key. -/
def isServed (d : Desk) (key : ScopeKey) : Bool :=
  (d.registry.get? key).any d.isLive

def check (d : Desk) (key : ScopeKey) : Check :=
  (d.registry.begin d.isLive key).1

/-- The state after a call. A guard that is no longer held does nothing. -/
def step (d : Desk) : Call → Desk
  | .begin key =>
    match d.registry.begin d.isLive key with
    | (.handled, registry) => { d with registry }
    | (.proceed, registry) => { d with registry, guards := d.guards ++ [some key] }
  | .complete guard live =>
    match d.guardKey? guard with
    | some key =>
      { registry := d.registry.complete key d.live.length
        guards := d.guards.set guard none
        live := d.live ++ [live] }
    | none => d
  | .drop guard =>
    match d.guardKey? guard with
    | some key => { d with registry := d.registry.abandon key, guards := d.guards.set guard none }
    | none => d
  | .remove key => { d with registry := (d.registry.remove key).2 }
  | .drain => { d with registry := d.registry.drain.2 }
  | .died session => { d with live := d.live.set session false }

def run (d : Desk) (calls : List Call) : Desk :=
  calls.foldl step d

end Desk

end Registry

end RLanguageHost
