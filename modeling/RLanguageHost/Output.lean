/-!
# Output

What the host shows about its language servers: lines, and how often it asked for attention.
-/

namespace RLanguageHost

inductive OutputEvent where
  | line (text : String)
  /-- Attention is asked for. -/
  | attention
  deriving Repr, DecidableEq, Inhabited

/-- The output so far. -/
structure Output where
  events : List OutputEvent := []
  deriving Repr, DecidableEq, Inhabited

namespace Output

def append (out : Output) (text : String) : Output :=
  ⟨out.events ++ [.line text]⟩

def alert (out : Output) : Output :=
  ⟨out.events ++ [.attention]⟩

def lines (out : Output) : List String :=
  out.events.filterMap fun
    | .line text => some text
    | .attention => none

/-- How often attention was asked for. -/
def shown (out : Output) : Nat :=
  out.events.countP fun
    | .line _ => false
    | .attention => true

end Output

end RLanguageHost
