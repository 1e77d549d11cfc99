import RLanguageHost.Document
import RLanguageHost.Json.Reader
import RLanguageHost.Json.Shape

/-!
# Events

What an editor tells the host: that a document was opened or closed, that workspace folders were
added or removed, or that the host is to stop.

An event is an object whose member `event` names its kind. It may come anywhere among the members,
which are kept until the kind is known; an array with the kind as its first element stands for the
same. Faults are found in the order of the text, except that the members of the kind are looked at
only when the object has been read to its end, and what follows the object last of all.
-/

namespace RLanguageHost

/-- What an editor tells the host. -/
inductive HostEvent where
  | opened (document : Document)
  | closed (uri : Uri)
  | foldersChanged (added removed : List Folder)
  | deactivate
  deriving Repr, DecidableEq, Inhabited

namespace HostEvent

/-- The kinds of events. -/
inductive Kind where
  | opened
  | closed
  | foldersChanged
  | deactivate
  deriving Repr, DecidableEq

namespace Kind

def all : List Kind := [.opened, .closed, .foldersChanged, .deactivate]

def name : Kind → String
  | .opened => "didOpen"
  | .closed => "didClose"
  | .foldersChanged => "workspaceFolders"
  | .deactivate => "deactivate"

def ofName (n : String) : Except Json.ShapeError Kind :=
  match all.find? (·.name = n) with
  | some kind => .ok kind
  | none => .error (.unknownVariant n (all.map name))

end Kind

def tagName : String := "event"

def asUri (value : Json) : Except Json.ShapeError Uri :=
  match value with
  | .str s =>
    match Uri.parse s with
    | .ok uri => .ok uri
    | .error e => .error (.rejected e.message s)
  | value => .error (.wrongType value "a string representing an URL")

structure FolderParts where
  uri : Option Uri := none
  name : Option String := none

/-- The name that messages give to the shape of a folder. -/
def folderShape : String := "struct WorkspaceFolder"

def readFolderMembers (parts : FolderParts) :
    List (String × Json) → Except Json.ShapeError FolderParts
  | [] => .ok parts
  | (key, value) :: rest => do
    if key = "uri" then
      if parts.uri.isSome then .error (.duplicateField "uri")
      else readFolderMembers { parts with uri := some (← asUri value) } rest
    else if key = "name" then
      if parts.name.isSome then .error (.duplicateField "name")
      else readFolderMembers { parts with name := some (← value.asString) } rest
    else readFolderMembers parts rest

/-- The error of an array that has more elements than the `read` ones. -/
def tooMany (read total : Nat) : Json.ShapeError :=
  .wrongLength total
    (toString read ++ (if read = 1 then " element" else " elements") ++ " in sequence")

/-- A folder. Its name may be left out. -/
def asFolder (value : Json) : Except Json.ShapeError Folder :=
  match value with
  | .obj members => do
    let parts ← readFolderMembers {} members
    match parts.uri with
    | none => .error (.missingField "uri")
    | some uri => return { uri, name := parts.name.getD "" }
  | .arr [] => .error (.wrongLength 0 (folderShape ++ " with 2 elements"))
  | .arr [uri] => do return { uri := ← asUri uri, name := "" }
  | .arr (uri :: name :: rest) => do
    let folder : Folder := { uri := ← asUri uri, name := ← name.asString }
    if rest.isEmpty then return folder else .error (tooMany 2 (rest.length + 2))
  | value => .error (.wrongType value folderShape)

/-- The content of an event: members, or elements. -/
inductive Content where
  | members (members : List (String × Json))
  | elements (items : List Json)

structure OpenedParts where
  uri : Option Uri := none
  language : Option String := none

def readOpenedMembers (parts : OpenedParts) :
    List (String × Json) → Except Json.ShapeError OpenedParts
  | [] => .ok parts
  | (key, value) :: rest => do
    if key = "uri" then
      if parts.uri.isSome then .error (.duplicateField "uri")
      else readOpenedMembers { parts with uri := some (← asUri value) } rest
    else if key = "languageId" then
      if parts.language.isSome then .error (.duplicateField "languageId")
      else readOpenedMembers { parts with language := some (← value.asString) } rest
    else readOpenedMembers parts rest

def asOpened (content : Content) : Except Json.ShapeError HostEvent :=
  let short := fun n =>
    Json.ShapeError.wrongLength n "struct variant HostEvent::DidOpen with 2 elements"
  match content with
  | .members members => do
    let parts ← readOpenedMembers {} members
    match parts.uri, parts.language with
    | none, _ => .error (.missingField "uri")
    | _, none => .error (.missingField "languageId")
    | some uri, some language => return .opened { uri, language }
  | .elements [] => .error (short 0)
  | .elements [uri] => do
    let _ ← asUri uri
    .error (short 1)
  | .elements (uri :: language :: rest) => do
    let document : Document := { uri := ← asUri uri, language := ← language.asString }
    if rest.isEmpty then return .opened document else .error (tooMany 2 (rest.length + 2))

def readClosedMembers (found : Option Uri) :
    List (String × Json) → Except Json.ShapeError (Option Uri)
  | [] => .ok found
  | (key, value) :: rest => do
    if key = "uri" then
      if found.isSome then .error (.duplicateField "uri")
      else readClosedMembers (some (← asUri value)) rest
    else readClosedMembers found rest

def asClosed (content : Content) : Except Json.ShapeError HostEvent :=
  match content with
  | .members members => do
    match ← readClosedMembers none members with
    | none => .error (.missingField "uri")
    | some uri => return .closed uri
  | .elements [] => .error (.wrongLength 0 "struct variant HostEvent::DidClose with 1 element")
  | .elements (uri :: rest) => do
    let uri ← asUri uri
    if rest.isEmpty then return .closed uri else .error (tooMany 1 (rest.length + 1))

structure FolderChange where
  added : Option (List Folder) := none
  removed : Option (List Folder) := none

def readChangeMembers (change : FolderChange) :
    List (String × Json) → Except Json.ShapeError FolderChange
  | [] => .ok change
  | (key, value) :: rest => do
    if key = "added" then
      if change.added.isSome then .error (.duplicateField "added")
      else readChangeMembers { change with added := some (← Json.asList asFolder value) } rest
    else if key = "removed" then
      if change.removed.isSome then .error (.duplicateField "removed")
      else readChangeMembers { change with removed := some (← Json.asList asFolder value) } rest
    else readChangeMembers change rest

/-- A `foldersChanged` event. Either list may be left out. -/
def asFoldersChanged (content : Content) : Except Json.ShapeError HostEvent :=
  match content with
  | .members members => do
    let change ← readChangeMembers {} members
    return .foldersChanged (change.added.getD []) (change.removed.getD [])
  | .elements [] => .ok (.foldersChanged [] [])
  | .elements [added] => do return .foldersChanged (← Json.asList asFolder added) []
  | .elements (added :: removed :: rest) => do
    let event := HostEvent.foldersChanged (← Json.asList asFolder added)
      (← Json.asList asFolder removed)
    if rest.isEmpty then return event else .error (tooMany 2 (rest.length + 2))

/-- The `deactivate` event. It has no content, but members are ignored. -/
def asDeactivate (content : Content) : Except Json.ShapeError HostEvent :=
  match content with
  | .members _ | .elements [] => .ok .deactivate
  | .elements items => .error (tooMany 0 items.length)

def ofContent (kind : Kind) (content : Content) : Except Json.ShapeError HostEvent :=
  match kind with
  | .opened => asOpened content
  | .closed => asClosed content
  | .foldersChanged => asFoldersChanged content
  | .deactivate => asDeactivate content

def liftSyntax {α : Type} (result : Except Json.SyntaxError α) : Except Json.Error α :=
  result.mapError .invalid

def liftShape {α : Type} (result : Except Json.ShapeError α) : Except Json.Error α :=
  result.mapError .shape

/-- The nesting that is allowed in the members of an event. -/
def innerDepth : Nat := Json.Reader.maxDepth - 1

/-- The kind at the start of a text. Of an array or object only the first character is looked at. -/
def readKind (fuel : Nat) (text : List Char) : Except Json.Error (Kind × List Char) := do
  let wrong := fun value => Json.Error.shape (.wrongType value "variant identifier")
  match Json.Reader.skipSpace text with
  | '[' :: _ => .error (wrong (.arr []))
  | '\x7b' :: _ => .error (wrong (.obj []))
  | text =>
    match ← liftSyntax (Json.Reader.value fuel innerDepth text) with
    | (.str name, rest) => return (← liftShape (Kind.ofName name), rest)
    | (value, _) => .error (wrong value)

/-- Reads the members of an event up to the closing brace. -/
def readMembers (fuel : Nat) (first : Bool) (kind : Option Kind) (read : List (String × Json))
    (text : List Char) : Except Json.Error (Kind × List (String × Json) × List Char) := do
  match fuel with
  | 0 => .error (.invalid .endInObject)
  | fuel + 1 =>
    match ← liftSyntax (Json.Reader.nextMember first text) with
    | (none, rest) =>
      match kind with
      | none => .error (.shape (.missingField tagName))
      | some kind => return (kind, read.reverse, rest)
    | (some (), rest) =>
      let (name, rest) ← liftSyntax (Json.Reader.name rest)
      if name = tagName then
        if kind.isSome then .error (.shape (.duplicateField tagName))
        else
          let (kind, rest) ← readKind fuel (← liftSyntax (Json.Reader.colon rest))
          readMembers fuel false (some kind) read rest
      else
        let (value, rest) ←
          liftSyntax (Json.Reader.value fuel innerDepth (← liftSyntax (Json.Reader.colon rest)))
        readMembers fuel false kind ((name, value) :: read) rest

/-- Reads the elements of an event that is written as an array, up to the closing bracket. -/
def readElements (fuel : Nat) (text : List Char) :
    Except Json.Error (Kind × List Json × List Char) := do
  match ← liftSyntax (Json.Reader.nextItem true text) with
  | (none, _) => .error (.shape (.missingField tagName))
  | (some (), rest) =>
    let (kind, rest) ← readKind fuel rest
    let (items, rest) ← liftSyntax (Json.Reader.items fuel innerDepth false [] rest)
    return (kind, items, rest)

/-- The event at the start of a text, and what follows it. -/
def read (text : List Char) : Except Json.Error (HostEvent × List Char) := do
  let fuel := Json.Reader.fuelFor text
  match Json.Reader.skipSpace text with
  | '\x7b' :: rest =>
    let (kind, members, rest) ← readMembers fuel true none [] rest
    return (← liftShape (ofContent kind (.members members)), rest)
  | '[' :: rest =>
    let (kind, items, rest) ← readElements fuel rest
    return (← liftShape (ofContent kind (.elements items)), rest)
  | text =>
    let (value, _) ← liftSyntax (Json.Reader.value fuel Json.Reader.maxDepth text)
    .error (.shape (.wrongType value "internally tagged enum HostEvent"))

def ofText (text : List Char) : Except Json.Error HostEvent := do
  let (event, rest) ← read text
  if (Json.Reader.skipSpace rest).isEmpty then return event else .error (.invalid .trailingText)

end HostEvent

end RLanguageHost
