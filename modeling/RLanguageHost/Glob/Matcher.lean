import RLanguageHost.Glob.Parser

/-!
# Matching glob patterns

A pattern is matched against all bytes of a path at once. The matcher holds the set of patterns that
may match what is left of the path and goes on byte by byte, so its time does not depend on how
often the pattern can be read in different ways.
-/

namespace RLanguageHost.Glob

mutual

/-- The number of parts of a part. -/
def Piece.weight : Piece → Nat
  | .one _ => 1
  | .run => 1
  | .choice patterns => 1 + choiceWeight patterns

/-- The number of parts of a pattern. -/
def weight : List Piece → Nat
  | [] => 0
  | piece :: rest => piece.weight + weight rest

/-- The number of parts of alternatives. -/
def choiceWeight : List (List Piece) → Nat
  | [] => 0
  | pattern :: rest => weight pattern + choiceWeight rest

end

theorem weight_append (a b : List Piece) : weight (a ++ b) = weight a + weight b := by
  induction a with
  | nil => simp [weight]
  | cons p a ih => simp only [List.cons_append, weight, ih]; omega

theorem weight_le_choiceWeight {pattern : List Piece} {patterns : List (List Piece)}
    (h : pattern ∈ patterns) : weight pattern ≤ choiceWeight patterns := by
  induction patterns with
  | nil => cases h
  | cons p ps ih =>
    simp only [choiceWeight]
    rcases List.mem_cons.1 h with rfl | h
    · omega
    · have := ih h; omega

theorem weight_lt_of_mem {pattern : List Piece} {patterns : List (List Piece)} (rest : List Piece)
    (h : pattern ∈ patterns) :
    weight (pattern ++ rest) < weight (.choice patterns :: rest) := by
  have := weight_le_choiceWeight h
  simp only [weight_append, weight, Piece.weight]
  omega

theorem weight_lt_cons (piece : Piece) (rest : List Piece) :
    weight rest < weight (piece :: rest) := by
  cases piece <;> simp only [weight, Piece.weight] <;> omega

def matchesEmpty (pattern : List Piece) : Bool :=
  match pattern with
  | [] => true
  | .one _ :: _ => false
  | .run :: rest => matchesEmpty rest
  | .choice patterns :: rest => patterns.attach.any fun ⟨p, _⟩ => matchesEmpty (p ++ rest)
termination_by weight pattern
decreasing_by
  · exact weight_lt_cons _ _
  · exact weight_lt_of_mem _ ‹_›

/-- The patterns that match what follows a byte where a pattern matches the whole. -/
def after (b : UInt8) (pattern : List Piece) : List (List Piece) :=
  match pattern with
  | [] => []
  | .one set :: rest => if set.has b then [rest] else []
  | .run :: rest => (.run :: rest) :: after b rest
  | .choice patterns :: rest => patterns.attach.flatMap fun ⟨p, _⟩ => after b (p ++ rest)
termination_by weight pattern
decreasing_by
  · exact weight_lt_cons _ _
  · exact weight_lt_of_mem _ ‹_›

mutual

/-- Whether two parts are equal. -/
def Piece.same : Piece → Piece → Bool
  | .one s, .one t => s = t
  | .run, .run => true
  | .choice ps, .choice qs => sameChoice ps qs
  | _, _ => false

def samePattern : List Piece → List Piece → Bool
  | [], [] => true
  | p :: ps, q :: qs => p.same q && samePattern ps qs
  | _, _ => false

/-- Whether two lists of alternatives are equal. -/
def sameChoice : List (List Piece) → List (List Piece) → Bool
  | [], [] => true
  | p :: ps, q :: qs => samePattern p q && sameChoice ps qs
  | _, _ => false

end

/-- Patterns without those that come again later. -/
def dropRepeated : List (List Piece) → List (List Piece)
  | [] => []
  | p :: rest => if rest.any (samePattern p) then dropRepeated rest else p :: dropRepeated rest

/-- The patterns, one of which has to match the rest of a path, after its first bytes. -/
def advance (patterns : List (List Piece)) (b : UInt8) : List (List Piece) :=
  dropRepeated (patterns.flatMap (after b))

def matchesPieces (pattern : List Piece) (path : Bytes) : Bool :=
  (path.foldl advance [pattern]).any matchesEmpty

/-- Whether a pattern matches a path. Two stars alone match every path. -/
def isMatch (pattern : List Token) (path : Bytes) : Bool :=
  match pattern with
  | [.directoriesFirst] => true
  | _ => matchesPieces (pieces pattern) path

end RLanguageHost.Glob
