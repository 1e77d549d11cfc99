import RLanguageHost.Glob.Basic

/-!
# Regular expressions

Expressions over bytes. Of all matches the one that starts first counts, and of those the longest
one; where an expression refers to its own groups, the first one that is found counts.

`Regex.ends` follows all matches at once and so finds how far the longest one goes; `Regex.step`
then looks for the groups of a match that ends there.

These are the expressions of scripts, in the conditions of the larger shell and in `grep`, `sed`,
`expr` and `awk`. The patterns of scopes and of the filter of the log are other ones, with modules
of their own.
-/

namespace RLanguageHost

inductive Regex where
  | empty
  | one (set : Glob.ByteSet)
  | sequence (first second : Regex)
  | either (first second : Regex)
  | repeated (least : Nat) (most : Option Nat) (body : Regex)
  | group (n : Nat) (body : Regex)
  /-- What a group has matched. -/
  | same (n : Nat)
  | lineStart
  | lineEnd
  /-- The start of a word, or its end. -/
  | wordEdge (start : Bool) (finish : Bool)
  /-- A place within a word or between words. -/
  | noWordEdge
  deriving Repr, Inhabited

namespace Regex

/-- How far an expression has been matched: what was passed, the last byte first, what is left, and
the groups. -/
structure Progress where
  before : Bytes := []
  rest : Bytes
  groups : List (Nat × Bytes) := []
  deriving Repr, Inhabited

def byte (c : Char) : UInt8 :=
  UInt8.ofNat c.toNat

def isWordByte (b : UInt8) : Bool :=
  (Char.ofNat b.toNat).isAlphanum || b = byte '_'

namespace Progress

/-- Passes the next byte. -/
def pass (p : Progress) : Progress :=
  match p.rest with
  | [] => p
  | b :: rest => { p with before := b :: p.before, rest }

def atWordStart (p : Progress) : Bool :=
  !p.before.head?.any isWordByte && p.rest.head?.any isWordByte

def atWordEnd (p : Progress) : Bool :=
  p.before.head?.any isWordByte && !p.rest.head?.any isWordByte

/-- The bytes that were passed since another place. -/
def since (q p : Progress) : Bytes :=
  (q.before.take (q.before.length - p.before.length)).reverse

end Progress

/-- Whether an expression that matches no bytes holds at a place. -/
def holdsAt (r : Regex) (p : Progress) : Bool :=
  match r with
  | .lineStart => p.before.isEmpty
  | .lineEnd => p.rest.isEmpty
  | .wordEdge start finish => (start && p.atWordStart) || (finish && p.atWordEnd)
  | .noWordEdge => !p.atWordStart && !p.atWordEnd
  | _ => true

/-- Whether an expression refers to its own groups. -/
def refers : Regex → Bool
  | .same _ => true
  | .sequence a b | .either a b => a.refers || b.refers
  | .repeated _ _ body | .group _ body => body.refers
  | _ => false

def groupCount : Regex → Nat
  | .sequence a b | .either a b => a.groupCount + b.groupCount
  | .repeated _ _ body => body.groupCount
  | .group _ body => body.groupCount + 1
  | _ => 0

/-- Places, each of them once. -/
def distinct (ps : List Progress) : List Progress :=
  ps.foldl (fun found p =>
    if found.any fun q => q.rest.length = p.rest.length then found else found ++ [p]) []

/-- The places that are reached by doing something again and again, with those where it starts. -/
def closure (f : List Progress → List Progress) : (fuel : Nat) → List Progress → List Progress
  | 0, ps => ps
  | fuel + 1, ps =>
    let more := distinct (ps ++ f ps)
    if more.length = ps.length then ps else closure f fuel more

/-- The places that are reached by doing something some number of times. -/
def times (f : List Progress → List Progress) : Nat → List Progress → List Progress
  | 0, ps => ps
  | n + 1, ps => times f n (f ps)

/-- The places that are reached by doing something up to some number of times. -/
def upToTimes (f : List Progress → List Progress) : Nat → List Progress → List Progress
  | 0, ps => ps
  | n + 1, ps => distinct (ps ++ upToTimes f n (f ps))

/-- The places where matches end that start at some places. -/
def ends : Regex → List Progress → List Progress
  | .one set, ps => ps.filterMap fun p =>
    if p.rest.head?.any set.has then some p.pass else none
  | .sequence a b, ps => ends b (ends a ps)
  | .either a b, ps => distinct (ends a ps ++ ends b ps)
  | .repeated least most body, ps =>
    let ps := times (ends body) least ps
    match most with
    | none => closure (ends body) ((ps.map (·.rest.length)).foldl max 0 + 1) ps
    | some most => upToTimes (ends body) (most - least) ps
  | .group _ body, ps => ends body ps
  | .empty, ps | .same _, ps => ps
  | .lineStart, ps => ps.filter (holdsAt .lineStart)
  | .lineEnd, ps => ps.filter (holdsAt .lineEnd)
  | .wordEdge start finish, ps => ps.filter (holdsAt (.wordEdge start finish))
  | .noWordEdge, ps => ps.filter (holdsAt .noWordEdge)

/-- Matches an expression and then what follows it. -/
def step (next : Progress → Option Progress) : (fuel : Nat) → Regex → Progress → Option Progress
  | 0, _, _ => none
  | fuel + 1, r, p =>
    match r with
    | .one set =>
      if p.rest.head?.any set.has then next p.pass else none
    | .sequence a b => step (step next fuel b) fuel a p
    | .either a b => (step next fuel a p).or (step next fuel b p)
    | .repeated least most body =>
      let more : Option Progress :=
        if most = some 0 then none
        else
          step (fun q =>
            if q.rest.length = p.rest.length && least = 0 then none
            else step next fuel (.repeated (least - 1) (most.map (· - 1)) body) q) fuel body p
      if least = 0 then more.or (next p) else more
    | .group n body =>
      step (fun q => next { q with groups := (n, q.since p) :: q.groups }) fuel body p
    | .same n =>
      let text := (p.groups.lookup n).getD []
      if text.isPrefixOf p.rest then
        next { p with before := text.reverse ++ p.before, rest := p.rest.drop text.length }
      else none
    | r => if r.holdsAt p then next p else none

/-- A bound on the steps of a match. -/
def patience (p : Progress) : Nat :=
  2000 + 20 * p.rest.length

/-- The match of an expression at a place: the place where it ends. -/
def matchAt (r : Regex) (p : Progress) : Option Progress :=
  let p := { p with groups := [] }
  if r.refers then step some (patience p) r p
  else
    match ((r.ends [p]).map (·.rest.length)).min? with
    | none => none
    | some left => step (fun q => if q.rest.length = left then some q else none) (patience p) r p

/-- The first match in what is left of a line: the places where it starts and ends. -/
def find? (r : Regex) : (fuel : Nat) → Progress → Option (Progress × Progress)
  | 0, _ => none
  | fuel + 1, p =>
    match r.matchAt p with
    | some q => some (p, q)
    | none => if p.rest.isEmpty then none else find? r fuel p.pass

def findIn? (r : Regex) (text : Bytes) : Option (Progress × Progress) :=
  r.find? (text.length + 1) { rest := text }

def isFound (r : Regex) (line : Bytes) : Bool :=
  (r.findIn? line).isSome

/-- A line with matches replaced from some match on, only that one or all. The replacement is made
from the places where a match starts and ends. Right after a match there is no empty one. -/
def replaceFrom (r : Regex) (all : Bool) (replacement : Progress → Progress → Bytes) :
    (fuel : Nat) → (skip : Nat) → (afterMatch : Bool) → Progress → Bytes × Nat
  | 0, _, _, p => (p.rest, 0)
  | fuel + 1, skip, afterMatch, p =>
    match r.find? (p.rest.length + 1) p with
    | none => (p.rest, 0)
    | some (a, b) =>
      let isEmpty := (b.since a).isEmpty
      let counts := !(isEmpty && afterMatch && (a.since p).isEmpty)
      let taken := counts && skip = 0
      let written := a.since p ++ (if taken then replacement a b else b.since a)
      if taken && !all then (written ++ b.rest, 1)
      else
        let skip := if counts then skip - 1 else skip
        let n := if taken then 1 else 0
        if isEmpty then
          if b.rest.isEmpty then (written, n)
          else
            let (more, m) := replaceFrom r all replacement fuel skip false b.pass
            (written ++ b.rest.take 1 ++ more, n + m)
        else
          let (more, m) := replaceFrom r all replacement fuel skip true b
          (written ++ more, n + m)

/-- A line with some of its matches replaced, and how many were: the one with a number, and with
`all` those after it. -/
def replace (r : Regex) (all : Bool) (number : Nat) (replacement : Progress → Progress → Bytes)
    (line : Bytes) : Bytes × Nat :=
  r.replaceFrom all replacement (2 * line.length + 4) (number - 1) false { rest := line }

end Regex

end RLanguageHost
