import RLanguageHost.Json.Reader
import RLanguageHost.Json.Shape
import RLanguageHost.Text.Blank

/-!
# Settings

The language server settings of an editor's configuration. They come as a JSON object, possibly
nested in larger configuration, or are put together step by step; either way `validate` has the last
word. Absent members keep their defaults and unknown members are ignored.
-/

namespace RLanguageHost

/-- How the language server is to be started. -/
structure Settings where
  /-- Whether the server logs what it does. -/
  debug : Bool := false
  /-- Whether the server talks over its standard streams and not over a socket. -/
  useStdio : Bool := false
  /-- Arguments for the R program, before the fixed ones. -/
  args : List String := []
  /-- The value of `LANG` for the server; an empty one leaves the choice open. -/
  lang : String := ""
  /-- The R program to run in the place of the installed one. -/
  path : Option String := none
  deriving Repr, DecidableEq, Inhabited

namespace Settings

/-- Why settings are refused. -/
inductive Error where
  /-- The settings file cannot be read. -/
  | read (path : String) (reason : String)
  /-- The settings are not JSON of the right shape. -/
  | parse (error : Json.Error)
  | invalidPath (reason : String)
  | invalidArgument (index : Nat) (reason : String)

def Error.message : Error → String
  | .read path reason => "Failed to read settings file " ++ path ++ ": " ++ reason
  | .parse error => "Invalid settings JSON: " ++ error.message
  | .invalidPath reason => "Invalid R path: " ++ reason
  | .invalidArgument index reason => "Invalid argument " ++ toString index ++ ": " ++ reason

/-- The name that messages give to the expected shape. -/
def shapeName : String := "struct LspSettings"

inductive Field where
  | debug
  | useStdio
  | args
  | lang
  | path
  deriving Repr, DecidableEq

namespace Field

/-- The members in the order in which an array lists them. -/
def all : List Field := [.debug, .useStdio, .args, .lang, .path]

def name : Field → String
  | .debug => "debug"
  | .useStdio => "use_stdio"
  | .args => "args"
  | .lang => "lang"
  | .path => "path"

/-- The member that a key names. Two members have a second name. -/
def ofKey? (key : String) : Option Field :=
  if key = "useStdio" then some .useStdio
  else if key = "rpath" then some .path
  else all.find? (·.name = key)

def set (field : Field) (value : Json) (settings : Settings) :
    Except Json.ShapeError Settings := do
  match field with
  | .debug => return { settings with debug := ← value.asBool }
  | .useStdio => return { settings with useStdio := ← value.asBool }
  | .args => return { settings with args := ← Json.asList Json.asString value }
  | .lang => return { settings with lang := ← value.asString }
  | .path => return { settings with path := ← value.asOptionalString }

end Field

/-- Reads members in order. A member that is given twice, also under two names, is an error. -/
def ofMembers (seen : List Field) (settings : Settings) :
    List (String × Json) → Except Json.ShapeError Settings
  | [] => .ok settings
  | (key, value) :: rest =>
    match Field.ofKey? key with
    | none => ofMembers seen settings rest
    | some field =>
      if field ∈ seen then .error (.duplicateField field.name)
      else do ofMembers (field :: seen) (← field.set value settings) rest

/-- Reads members in the fixed order of an array that has `length` elements in all. -/
def ofItems (length : Nat) (settings : Settings) :
    List Field → List Json → Except Json.ShapeError Settings
  | _, [] => .ok settings
  | [], _ :: _ => .error (.wrongLength length "fewer elements in array")
  | field :: fields, item :: items => do
    ofItems length (← field.set item settings) fields items

/-- The settings in a value, which are not validated. -/
def ofJson (value : Json) : Except Json.ShapeError Settings :=
  match value with
  | .obj members => ofMembers [] {} members
  | .arr items => ofItems items.length {} Field.all items
  | _ => .error (.wrongType value shapeName)

/-- The part of a configuration that holds the settings: the section `r.lsp`, the section `lsp`, or
the whole of it. -/
def sectionOf (value : Json) : Json :=
  match (value.member? "r").bind (·.member? "lsp") with
  | some found => found
  | none => (value.member? "lsp").getD value

/-- The index of the first argument with a NUL. -/
def firstBadArg (args : List String) : Option Nat :=
  args.findIdx? fun arg => arg.toList.contains '\x00'

/-- Accepts settings whose path, if any, is not blank and whose arguments have no NUL. -/
def validate (settings : Settings) : Except Error Unit :=
  if settings.path.any Text.isBlankString then .error (.invalidPath "path override is empty")
  else
    match firstBadArg settings.args with
    | some index => .error (.invalidArgument index "contains a NUL byte")
    | none => .ok ()

def ofConfiguration (value : Json) : Except Error Settings := do
  match ofJson (sectionOf value) with
  | .error e => .error (.parse (.shape e))
  | .ok settings =>
    settings.validate
    return settings

def ofText (text : String) : Except Error Settings :=
  match Json.parse text with
  | .error fault => .error (.parse (.invalid fault))
  | .ok value => ofConfiguration value

/-- The value of `LANG` when neither the settings nor the environment give one. -/
def defaultLang : String := "en_US.UTF-8"

/-- The value of `LANG` that the server is given; `none` leaves the inherited one. -/
def effectiveLang (settings : Settings) (inherited : Option String) : Option String :=
  if settings.lang ≠ "" then some settings.lang
  else if inherited.isNone then some defaultLang
  else none

/-- One step in putting settings together. -/
inductive Change where
  | debug (on : Bool)
  | useStdio (on : Bool)
  | addArg (arg : String)
  | args (more : List String)
  | lang (lang : String)
  | path (path : String)
  deriving Repr, DecidableEq

/-- The settings after a step. Arguments accumulate, all else is replaced. -/
def change (settings : Settings) : Change → Settings
  | .debug on => { settings with debug := on }
  | .useStdio on => { settings with useStdio := on }
  | .addArg arg => { settings with args := settings.args ++ [arg] }
  | .args more => { settings with args := settings.args ++ more }
  | .lang lang => { settings with lang }
  | .path path => { settings with path := some path }

/-- The settings that steps from the defaults lead to. -/
def build (changes : List Change) : Except Error Settings := do
  let settings := changes.foldl change {}
  settings.validate
  return settings

end Settings

end RLanguageHost
