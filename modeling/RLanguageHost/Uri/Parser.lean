import RLanguageHost.Uri.Basic
import RLanguageHost.Uri.Host
import RLanguageHost.Uri.Path

/-!
# Reading URIs

`parse` reads an absolute URI and brings it into its normal form. Controls and spaces around it and
tabs and line breaks in it are dropped. Schemes of the web must have a host, lose the port that they
have by default and read backslashes as slashes; `file` does without a host; every other scheme is
taken as it is written.
-/

namespace RLanguageHost.Uri

namespace Parser

/-- The text without the controls and spaces around it. -/
def strip (text : List Char) : List Char :=
  let outer c : Bool := c.toNat ≤ 0x20
  ((text.dropWhile outer).reverse.dropWhile outer).reverse

def isSchemeChar (c : Char) : Bool :=
  c.isAlphanum || c == '+' || c == '-' || c == '.'

/-- The scheme in lower case and the text after its colon. -/
def scheme? (text : List Char) : Option (List Char × List Char) :=
  match text with
  | [] => none
  | c :: _ =>
    if !c.isAlpha then none
    else
      match text.dropWhile isSchemeChar with
      | ':' :: rest => some ((text.takeWhile isSchemeChar).map Char.toLower, rest)
      | _ => none

/-- How the URIs of a scheme are read. -/
def kindOf (scheme : List Char) : SchemeKind :=
  match String.ofList scheme with
  | "file" => .file
  | "http" | "https" | "ws" | "wss" | "ftp" => .web
  | _ => .other

def defaultPort? (scheme : List Char) : Option Nat :=
  match String.ofList scheme with
  | "http" | "ws" => some 80
  | "https" | "wss" => some 443
  | "ftp" => some 21
  | _ => none

def endsAuthority (kind : SchemeKind) (c : Char) : Bool :=
  c == '/' || c == '?' || c == '#' || (kind.isSpecial && c == '\\')

def splitLast? (mark : Char) (text : List Char) : Option (List Char × List Char) :=
  if text.contains mark then
    let after := (text.reverse.takeWhile (· ≠ mark)).reverse
    some ((text.take (text.length - after.length)).dropLast, after)
  else none

/-- The user name and password, with the sign that ends them. Nothing is left of empty ones. -/
def userInfo (text : List Char) : List Char :=
  let name := encodeText inUserInfoSet (text.takeWhile (· ≠ ':'))
  let password := encodeText inUserInfoSet ((text.dropWhile (· ≠ ':')).drop 1)
  let both := if password.isEmpty then name else name ++ ':' :: password
  if both.isEmpty then [] else both ++ ['@']

/-- The host and the text from the port's colon on. A colon in brackets belongs to the host. -/
def splitHost (inBrackets : Bool) : List Char → List Char × List Char
  | [] => ([], [])
  | c :: rest =>
    if c = ':' ∧ !inBrackets then ([], c :: rest)
    else
      let inBrackets := if c = '[' then true else if c = ']' then false else inBrackets
      let (host, port) := splitHost inBrackets rest
      (c :: host, port)

def readPort (value : Nat) (seen : Bool) : List Char →
    Except ParseError (Option Nat × List Char)
  | [] => .ok (if seen then some value else none, [])
  | c :: rest =>
    if c.isDigit then
      let value := value * 10 + (c.toNat - '0'.toNat)
      if 65535 < value then .error .invalidPort else readPort value true rest
    else if c = '/' ∨ c = '\\' ∨ c = '?' ∨ c = '#' then
      .ok (if seen then some value else none, c :: rest)
    else .error .invalidPort

/-- The port's part of the normal form, and the text after it. -/
def port (scheme text : List Char) : Except ParseError (List Char × List Char) :=
  match text with
  | ':' :: rest => do
    let (value, rest) ← readPort 0 false rest
    match value with
    | some n =>
      return (if defaultPort? scheme = some n then [] else ':' :: Nat.toDigits 10 n, rest)
    | none => return ([], rest)
  | _ => .ok ([], text)

/-- The normal form of an authority and the text after it. The text starts after the two slashes. -/
def authority (scheme : List Char) (kind : SchemeKind) (text : List Char) :
    Except ParseError (List Char × List Char) := do
  let whole := text.takeWhile (!endsAuthority kind ·)
  let after := text.dropWhile (!endsAuthority kind ·)
  let (user, rest) ←
    match splitLast? '@' whole with
    | none => .ok ([], whole)
    | some (user, rest) =>
      if user.isEmpty ∧ rest.isEmpty ∧ !after.isEmpty then .error .emptyHost
      else .ok (userInfo user, rest)
  let (hostText, portText) := splitHost false rest
  let host ←
    if kind = .web then
      if hostText.isEmpty then .error .emptyHost else Host.special hostText
    else Host.plain hostText
  if host.isEmpty ∧ portText.head? = some ':' then .error .emptyHost
  else do
    let (portPart, rest) ← port scheme (portText ++ after)
    if host.isEmpty ∧ !user.isEmpty then .error .emptyHost
    else return (user ++ host ++ portPart, rest)

def beforeMarks (text : List Char) : List Char :=
  text.takeWhile fun c => c ≠ '?' ∧ c ≠ '#'

/-- The query and the fragment of a text that starts with their marks. -/
def marks (kind : SchemeKind) (text : List Char) : Option String × Option String :=
  let queryText := text.takeWhile (· ≠ '#')
  let fragmentText := text.dropWhile (· ≠ '#')
  let query :=
    match queryText with
    | '?' :: q => some (String.ofList (encodeText (inQuerySet kind.isSpecial) q))
    | _ => none
  let fragment :=
    match fragmentText with
    | '#' :: f => some (String.ofList (encodeText inFragmentSet f))
    | _ => none
  (query, fragment)

/-- Puts a URI together; the path is at the start of `text`, of which `normal` makes the normal
form. -/
def assemble (scheme : List Char) (kind : SchemeKind) (authority : Option (List Char))
    (normal : List Char → List Char) (text : List Char) : Uri :=
  let path := beforeMarks text
  let (query, fragment) := marks kind (visible (text.drop path.length))
  { scheme := String.ofList scheme
    authority := authority.map String.ofList
    path := String.ofList (normal path)
    query
    fragment }

def dropSlash (kind : SchemeKind) (text : List Char) : List Char :=
  match nextVisible? text with
  | some (c, rest) => if c = '/' ∨ (kind.isSpecial ∧ c = '\\') then rest else text
  | none => []

/-- The normal form of a path after an authority. Only without rules for the scheme can there be no
path at all. -/
def pathAfterAuthority (kind : SchemeKind) (text : List Char) : List Char :=
  if kind = .other ∧ text.isEmpty then []
  else normalPath kind (dropSlash kind text)

/-- A URI of the scheme `file` with a host. A path that leads to a drive does without the host. -/
def fileOnHost (scheme host text : List Char) : Uri :=
  let isOnDrive := (resolvePath .file (dropSlash .file (beforeMarks text))).onDrive
  assemble scheme .file (some (if isOnDrive then [] else host)) (pathAfterAuthority .file) text

/-- A URI of the scheme `file` without a host, whose path is read from where `text` starts. -/
def fileWithoutHost (scheme text : List Char) : Uri :=
  assemble scheme .file (some []) (normalPath .file) text

/-- A URI of the scheme `file`, from after the colon. The slash after an empty host makes an empty
segment, so that no drive comes first there. -/
def file (scheme text : List Char) : Except ParseError Uri := do
  let isSlash c := c == '/' || c == '\\'
  let slashes := do
    let (a, rest) ← nextVisible? text
    let (b, rest) ← nextVisible? rest
    if isSlash a && isSlash b then some rest else none
  match slashes with
  | none => return fileWithoutHost scheme (dropSlash .file text)
  | some rest =>
    let hostText := rest.takeWhile (!endsAuthority .file ·)
    let after := rest.drop hostText.length
    let hostText := visible hostText
    if isDriveLetter hostText then return fileWithoutHost scheme rest
    else
      let host ← if hostText.isEmpty then .ok [] else Host.special hostText
      if host.isEmpty ∨ host = "localhost".toList then return fileWithoutHost scheme after
      else return fileOnHost scheme host after

/-- A URI of a scheme of the web, from after the colon. -/
def web (scheme text : List Char) : Except ParseError Uri := do
  let (host, rest) ← authority scheme .web (text.dropWhile fun c => c = '/' ∨ c = '\\')
  return assemble scheme .web (some host) (pathAfterAuthority .web) rest

/-- A URI of any other scheme, from after the colon. -/
def other (scheme text : List Char) : Except ParseError Uri := do
  match text with
  | '/' :: '/' :: rest =>
    let (host, rest) ← authority scheme .other rest
    return assemble scheme .other (some host) (pathAfterAuthority .other) rest
  | '/' :: _ => return assemble scheme .other none (pathAfterAuthority .other) text
  | _ => return assemble scheme .other none (encodeText isControl) text

end Parser

def parse (s : String) : Except ParseError Uri :=
  let text := Parser.strip s.toList
  match Parser.scheme? (visible text) with
  | none => .error .relativeWithoutBase
  | some (scheme, rest) =>
    match Parser.kindOf scheme with
    | .file => Parser.file scheme ((text.dropWhile (· ≠ ':')).drop 1)
    | .web => Parser.web scheme rest
    | .other => Parser.other scheme rest

end RLanguageHost.Uri
