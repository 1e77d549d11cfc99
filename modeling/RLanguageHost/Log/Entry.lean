import RLanguageHost.Json.Printer
import RLanguageHost.Log.Filter
import RLanguageHost.Output

/-!
# Log entries

What the host logs about its language servers: a line of output as information, and a wish for
attention as a warning. In JSON form each entry is an object on a line of its own.
-/

namespace RLanguageHost.Log

structure Entry where
  level : Level
  target : String
  message : String
  deriving Repr, DecidableEq, Inhabited

namespace Entry

/-- The target of what language servers write. -/
def serverTarget : String := "r_language_server"

/-- The entry for something that went to the output. -/
def ofOutput : OutputEvent → Entry
  | .line text => ⟨.info, serverTarget, text⟩
  | .attention => ⟨.warn, serverTarget, "R Language Server output requires attention"⟩

def toJson (e : Entry) : Json :=
  .obj [("level", .str e.level.name), ("fields", .obj [("message", .str e.message)]),
    ("target", .str e.target)]

def line (e : Entry) (json : Bool) : String :=
  if json then e.toJson.print else e.level.name ++ " " ++ e.target ++ ": " ++ e.message

end Entry

end RLanguageHost.Log
