import RLanguageHost.Uri.Domain
import RLanguageHost.Uri.Percent

/-!
# Hosts

The host of a URI: a domain, an IPv4 address, an IPv6 address in brackets, or, where the scheme has
no rules for hosts, any text without a few characters. Each is brought into one normal form: domains
into ASCII, IPv4 addresses into four decimal numbers, IPv6 addresses into hexadecimal pieces with
the longest run of zeros left out.
-/

namespace RLanguageHost.Uri

inductive ParseError where
  | relativeWithoutBase
  | emptyHost
  | invalidPort
  | invalidIpv4
  | invalidIpv6
  | invalidInternationalDomain
  | invalidDomainCharacter
  deriving Repr, DecidableEq

def ParseError.message : ParseError → String
  | .relativeWithoutBase => "relative URL without a base"
  | .emptyHost => "empty host"
  | .invalidPort => "invalid port number"
  | .invalidIpv4 => "invalid IPv4 address"
  | .invalidIpv6 => "invalid IPv6 address"
  | .invalidInternationalDomain => "invalid international domain name"
  | .invalidDomainCharacter => "invalid domain character"

namespace Host

/-- The value of digits in a base up to sixteen; `none` if one of them is no digit of the base. -/
def valueInBase? (base : Nat) (digits : List Char) : Option Nat :=
  digits.foldlM (fun n c =>
    match hexDigit? c with
    | some d => if d < base then some (n * base + d) else none
    | none => none) 0

/-- A part of an IPv4 address: decimal, hexadecimal after `0x`, octal after `0`. -/
def ipv4Part? (part : List Char) : Option Nat :=
  match part with
  | [] => none
  | '0' :: 'x' :: rest | '0' :: 'X' :: rest => valueInBase? 16 rest
  | '0' :: c :: rest => valueInBase? 8 (c :: rest)
  | _ => valueInBase? 10 part

/-- The last part of a domain that is not empty for a full stop at the end. -/
def lastPart (domain : List Char) : List Char :=
  match (Domain.labels domain).reverse with
  | [] :: part :: _ => part
  | part :: _ => part
  | [] => []

/-- Whether a domain must be an IPv4 address. -/
def endsInNumber (domain : List Char) : Bool :=
  let last := lastPart domain
  (!last.isEmpty && last.all Char.isDigit) || (ipv4Part? last).isSome

/-- The number of an IPv4 address. Its last part fills all places that the others leave. -/
def ipv4? (domain : List Char) : Option Nat :=
  let parts := Domain.labels domain
  let parts := if parts.getLast? = some [] then parts.dropLast else parts
  if 4 < parts.length then none
  else
    match parts.mapM ipv4Part? with
    | none => none
    | some numbers =>
      match numbers.reverse with
      | [] => none
      | last :: front =>
        if Nat.pow 256 (4 - front.length) ≤ last ∨ front.any (255 < ·) then none
        else
          some (front.reverse.zipIdx.foldl
            (fun total (n, i) => total + n * Nat.pow 256 (3 - i)) last)

/-- An IPv4 address in four decimal numbers. -/
def ipv4Text (n : Nat) : List Char :=
  List.intercalate ['.']
    ([n / 16777216 % 256, n / 65536 % 256, n / 256 % 256, n % 256].map (Nat.toDigits 10))

def splitColons (text : List Char) : List (List Char) :=
  match text with
  | [] => [[]]
  | c :: rest =>
    if c = ':' then [] :: splitColons rest
    else
      match splitColons rest with
      | [] => [[c]]
      | part :: more => (c :: part) :: more

/-- A number of an IPv4 address at the end of an IPv6 address: at most 255, no leading zero. -/
def embeddedPart? (part : List Char) : Option Nat :=
  match part with
  | [] => none
  | ['0'] => some 0
  | '0' :: _ => none
  | _ => (valueInBase? 10 part).bind fun n => if n ≤ 255 then some n else none

/-- The two pieces of an IPv4 address at the end of an IPv6 address. -/
def embedded? (text : List Char) : Option (List Nat) :=
  match (Domain.labels text).mapM embeddedPart? with
  | some [a, b, c, d] => some [a * 256 + b, c * 256 + d]
  | _ => none

/-- The pieces of a part of an IPv6 address without a gap. Only the last may be an IPv4 address. -/
def pieces? : List (List Char) → Option (List Nat)
  | [] => some []
  | [part] =>
    if part.contains '.' then embedded? part else (piece? part).map fun n => [n]
  | part :: rest => do return (← piece? part) :: (← pieces? rest)
where
  piece? (part : List Char) : Option Nat :=
    if part.isEmpty ∨ 4 < part.length then none else valueInBase? 16 part

/-- The text before the first double colon and the text after it. -/
def splitGap : List Char → Option (List Char × List Char)
  | ':' :: ':' :: rest => some ([], rest)
  | c :: rest => (splitGap rest).map fun (before, after) => (c :: before, after)
  | [] => none

/-- The pieces of one side of a gap, which may be empty. -/
def side? (text : List Char) : Option (List Nat) :=
  if text.isEmpty then some [] else pieces? (splitColons text)

/-- The eight pieces of an IPv6 address. -/
def ipv6? (text : List Char) : Option (List Nat) :=
  match splitGap text with
  | none => (pieces? (splitColons text)).bind fun ps => if ps.length = 8 then some ps else none
  | some (before, after) => do
    if before.contains '.' then none
    else
      let front ← side? before
      let back ← side? after
      if 8 ≤ front.length + back.length then none
      else return front ++ List.replicate (8 - front.length - back.length) 0 ++ back

def zeros (pieces : List Nat) : Nat :=
  (pieces.takeWhile (· = 0)).length

/-- The place and length of the first longest run of zeros. -/
def longestGap (pieces : List Nat) : Nat × Nat :=
  (List.range pieces.length).foldl (fun best i =>
    let run := zeros (pieces.drop i)
    if best.2 < run then (i, run) else best) (0, 0)

/-- Pieces in hexadecimal with colons between them. -/
def piecesText (pieces : List Nat) : List Char :=
  List.intercalate [':'] (pieces.map (Nat.toDigits 16))

/-- An IPv6 address in brackets. A run of at least two zeros is left out. -/
def ipv6Text (pieces : List Nat) : List Char :=
  let (start, length) := longestGap pieces
  let text :=
    if length < 2 then piecesText pieces
    else piecesText (pieces.take start) ++ [':', ':'] ++ piecesText (pieces.drop (start + length))
  ['['] ++ text ++ [']']

def bracketed (text : List Char) : Except ParseError (List Char) :=
  if text.getLast? ≠ some ']' then .error .invalidIpv6
  else
    match ipv6? (text.drop 1).dropLast with
    | some pieces => .ok (ipv6Text pieces)
    | none => .error .invalidIpv6

def special (text : List Char) : Except ParseError (List Char) :=
  if text.head? = some '[' then bracketed text
  else
    match Domain.toAscii? (decode text) with
    | none => .error .invalidInternationalDomain
    | some domain =>
      if domain.isEmpty then .error .emptyHost
      else if endsInNumber domain then
        match ipv4? domain with
        | some n => .ok (ipv4Text n)
        | none => .error .invalidIpv4
      else .ok domain

def isForbidden (c : Char) : Bool :=
  c == '\x00' || c == '\t' || c == '\n' || c == '\r' || c == ' ' || c == '#' || c == '/' ||
  c == ':' || c == '<' || c == '>' || c == '?' || c == '@' || c == '[' || c == '\\' || c == ']' ||
  c == '^' || c == '|'

/-- The host of a scheme without rules for hosts. -/
def plain (text : List Char) : Except ParseError (List Char) :=
  if text.head? = some '[' then bracketed text
  else if text.any isForbidden then .error .invalidDomainCharacter
  else .ok (encodeText isControl text)

end Host

end RLanguageHost.Uri
