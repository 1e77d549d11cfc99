import RLanguageHost.Json.Number
import RLanguageHost.Json.Printer
import RLanguageHost.Text.Quoted

/-!
# Values of an expected shape

The faults that a reader of a well-formed value can find when it expects a certain shape, with their
wording, and the readers for the simplest shapes.
-/

namespace RLanguageHost.Json

/-- Why a value does not have the expected shape. -/
inductive ShapeError where
  /-- The value is of another type. `expected` names the type, with its article. -/
  | wrongType (found : Json) (expected : String)
  /-- A member is absent. -/
  | missingField (name : String)
  /-- A member occurs twice. -/
  | duplicateField (name : String)
  /-- A name is none of the expected ones. -/
  | unknownVariant (name : String) (expected : List String)
  /-- An array has the wrong number of elements. `expected` says what was expected. -/
  | wrongLength (found : Nat) (expected : String)
  /-- A string does not hold what it should. -/
  | rejected (reason : String) (text : String)

def describe : Json → String
  | .null => "null"
  | .bool b => "boolean `" ++ (if b then "true" else "false") ++ "`"
  | .int n => "integer `" ++ String.ofList (intText n) ++ "`"
  | .float x => "floating point `" ++ String.ofList (floatText x) ++ "`"
  | .str s => "string " ++ Text.quote s
  | .arr _ => "sequence"
  | .obj _ => "map"

namespace ShapeError

def message : ShapeError → String
  | .wrongType found expected => "invalid type: " ++ found.describe ++ ", expected " ++ expected
  | .missingField name => "missing field `" ++ name ++ "`"
  | .duplicateField name => "duplicate field `" ++ name ++ "`"
  | .unknownVariant name expected =>
    "unknown variant `" ++ name ++ "`, expected one of " ++
      ", ".intercalate (expected.map fun e => "`" ++ e ++ "`")
  | .wrongLength found expected =>
    "invalid length " ++ toString found ++ ", expected " ++ expected
  | .rejected reason text => reason ++ ": " ++ Text.quote text

end ShapeError

/-- Why a text cannot be read as a value of an expected shape. -/
inductive Error where
  /-- The text is not JSON. -/
  | invalid (fault : SyntaxError)
  /-- The value has another shape. -/
  | shape (error : ShapeError)

def Error.message : Error → String
  | .invalid fault => fault.message
  | .shape error => error.message

def asBool : Json → Except ShapeError Bool
  | .bool b => .ok b
  | value => .error (.wrongType value "a boolean")

def asString : Json → Except ShapeError String
  | .str s => .ok s
  | value => .error (.wrongType value "a string")

/-- A string, or nothing where `null` stands for it. -/
def asOptionalString : Json → Except ShapeError (Option String)
  | .null => .ok none
  | value => some <$> asString value

def asList {α : Type} (element : Json → Except ShapeError α) : Json → Except ShapeError (List α)
  | .arr items => items.mapM element
  | value => .error (.wrongType value "a sequence")

end RLanguageHost.Json
