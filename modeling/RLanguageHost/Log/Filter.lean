import RLanguageHost.Log.Directive

/-!
# Log filters

A filter says how much is logged. It consists of directives between commas.

An entry is logged if the directive that counts for it lets it through: of those that fit it the one
with the longest text for the target, before all others one that asks for a field, and of equal ones
the last. It is also logged if it is made within a span for which some directive lets it through.
A span is looked at only if it is itself important enough for one of the directives.

A filter without directives lets only errors through, and a text that is no filter stands for the
level `info`.
-/

namespace RLanguageHost.Log

structure Filter where
  directives : List Directive
  deriving Repr, DecidableEq, Inhabited

namespace Filter

/-- The pieces of a text between commas. -/
def pieces : List Char → List (List Char)
  | [] => [[]]
  | c :: rest =>
    match c == ',', pieces rest with
    | true, all => [] :: all
    | false, [] => [[c]]
    | false, piece :: others => (c :: piece) :: others

def ofText? (text : String) : Option Filter :=
  let found := (pieces text.toList).filter (!·.isEmpty)
  if found.isEmpty then some ⟨[{ limit := Level.error.rank }]⟩
  else Filter.mk <$> found.mapM Directive.ofText?

/-- The filter for a text, whatever it says. -/
def ofText (text : String) : Filter :=
  (ofText? text).getD ⟨[{ limit := Level.info.rank }]⟩

/-- Whether a directive comes before another one where both fit. -/
def precedes (d e : Directive) : Bool :=
  e.target.length < d.target.length
    || (e.target.length = d.target.length && (d.field.isSome || e.field.isNone))

/-- The directive that counts for the entries of a target that have certain fields. -/
def directive? (filter : Filter) (target : String) (fields : List String) : Option Directive :=
  (filter.directives.filter fun d => d.isStatic && d.fits target fields).foldl
    (fun best d => if best.all (precedes d) then some d else best) none

/-- The directives about spans. Of those about the same spans only the last is in force. -/
def spanDirectives : List Directive → List Directive
  | [] => []
  | d :: rest =>
    if d.isDynamic && !rest.any (d.concernsSame ·) then d :: spanDirectives rest
    else spanDirectives rest

/-- How important spans have to be in order to be looked at. -/
def spanLimit (filter : Filter) : Nat :=
  if (spanDirectives filter.directives).any fun d => d.field.any (·.value.isSome) then
    Level.trace.rank
  else (filter.directives.map (·.limit)).foldl max 0

/-- How much is let through within a span. -/
def limitWithin (filter : Filter) (span : Span) : Nat :=
  if span.level.rank ≤ filter.spanLimit then
    (((spanDirectives filter.directives).filter fun d => d.concerns span && d.holdsIn span).map
      (·.limit)).foldl max 0
  else 0

def entryFields : List String :=
  ["message"]

/-- Whether an entry of a target, made within a span, is logged. -/
def allows (filter : Filter) (target : String) (span : Option Span) (level : Level) : Bool :=
  span.any (level.rank ≤ filter.limitWithin ·)
    || (filter.directive? target entryFields).any fun d => level.rank ≤ d.limit

end Filter

end RLanguageHost.Log
