import RLanguageHost.Text.Combining
import RLanguageHost.Text.Mark
import RLanguageHost.Text.Utf8
import RLanguageHost.Uri.Domain.Form
import RLanguageHost.Uri.Punycode

/-!
# Domain names

The domain of a URI in its ASCII form. Every character takes its form in domain names, and a label
that is then not ASCII is spelled in Punycode behind `xn--`. A label that comes so spelled must
spell a label that is fit for a domain. A domain that is not fit as a whole has no ASCII form.
-/

namespace RLanguageHost.Uri.Domain

/-!
## Joiners

Two characters that cannot be seen keep letters apart or draw them together. They can be in a domain
name only where they make a difference: after a mark that takes a consonant's vowel away, and, for
the one that keeps apart, between two letters of a cursive script that would be joined.
-/

/-- Keeps the letters around it apart. -/
def nonJoiner : Char := '\u200c'

/-- Draws the letters around it together. -/
def joiner : Char := '\u200d'

def joiningAfter : Text.CodePoints := .ofTable "
  620 626 628 62A-62E 633-63F 641-647 649-64A 66E-66F 679-687 69A-6BF 6C1-6C2 6CC 6CE 6D0-6D1
  6FA-6FC 6FF 712-714 71A-71D 71F-727 729 72B 72D-72E 74E-758 75C-76A 76D-770 772 775-777
  77A-77F 7CA-7EA 841-845 848 84A-853 855 860 862-865 868 886 889-88D 88F-8A9 8AF-8B0 8B3-8B8
  8BA-8C8 1807 1820-1878 1887-18AA A840-A872 10AC0-10AC4 10ACD 10AD3-10ADC 10ADE-10AE0
  10AEB-10AEE 10B80 10B82 10B86-10B88 10B8A-10B8B 10B8D 10B90 10BAD-10BAE 10D00-10D21 10D23
  10EC3-10EC4 10EC6-10EC7 10F30-10F32 10F34-10F44 10F51-10F53 10F70-10F73 10F76-10F81 10FB0
  10FB2-10FB3 10FB8 10FBB-10FBC 10FBE-10FBF 10FC1 10FC4 10FCA-10FCB 1E922-1E943"

def joiningBefore : Text.CodePoints := .ofTable "
  620 622-63F 641-64A 66E-673 679-6D3 6D5 6EE-6EF 6FA-6FC 6FF 710-77F 7CA-7EA 840-858 860
  862-865 867-882 886 889-8AC 8AE-8C8 1807 1820-1878 1887-18AA A840-A871 10AC0-10AC5 10AC7
  10AC9-10ACA 10ACE-10AD6 10AD8-10AE1 10AE4-10AEF 10B80-10B91 10BA9-10BAE 10D01-10D23
  10EC2-10EC7 10F30-10F44 10F51-10F54 10F70-10F81 10FB0 10FB2-10FB6 10FB8-10FBF 10FC1-10FC4
  10FC9-10FCA 1E922-1E943"

/-- Whether letters are joined across a character. -/
def isTransparent (c : Char) : Bool :=
  0x80 ≤ c.toNat && (Text.nonspacingMarks.has c || c = '𞥋')

/-- The class of the marks that take a vowel away. -/
def vowelKiller : Nat := 9

/-- Whether the joiners of a text make a difference where they are. `before` is what precedes the
text, in reverse. -/
def joinersFit (before : List Char) : List Char → Bool
  | [] => true
  | c :: rest =>
    let afterKiller := before.head?.any fun b => Text.combiningClass b = vowelKiller
    let between :=
      (before.dropWhile isTransparent).head?.any joiningAfter.has
        && (rest.dropWhile isTransparent).head?.any joiningBefore.has
    let fits :=
      if c = nonJoiner then afterKiller || between else if c = joiner then afterKiller else true
    fits && joinersFit (c :: before) rest

/-!
## Directions

Letters are written from left to right or from right to left, and numbers and signs go along with
them. A name in which both directions meet could be read in two ways. So a domain name with
characters from right to left is fit to be read only if each of its labels keeps to one direction
from its first character to its last.
-/

/-- How a character behaves between characters of either direction. -/
inductive Direction where
  | left
  | right
  | europeanNumber
  | arabicNumber
  /-- Signs, which take the direction around them. -/
  | neutral
  /-- Marks, which take the direction of the character before them. -/
  | mark
  deriving Repr, DecidableEq

def rightToLeft : Text.CodePoints := .ofTable "
  5BE-5F4 608 60B 60D 61B-64A 66D-6D5 6E5-6E6 6EE-6EF 6FA-7F5 7FA-8C9 FBB2-FBC2 FE73 10800-1091B
  10920-10B35 10B40-10D23 10D4A-10D4F 10D6F-10D8F 10E80-10ED0 10F00-10FF6 1E800-1ED3D"

/-- Digits that numbers among letters of either direction are written with. -/
def europeanNumbers : Text.CodePoints := .ofTable "
  30-39 6F0-6F9 102E1-102FB"

/-- Digits that go with letters from right to left. -/
def arabicNumbers : Text.CodePoints := .ofTable "
  660-669 66B-66C 10D30-10D49 10E60-10E7E"

/-- Signs without a direction. -/
def neutrals : Text.CodePoints := .ofTable "
  0-2F 3A-60 7B-D7 F7 2B9-2BA 2C2-2CF 2D2-2ED 2EF-2FF 375 3F6 58A-58F 606-607 609-60A 60C
  60E-60F 66A 6DE 6E9 7F6-7F9 9F2-9F3 9FB AF1 BF3-BFA C78-C7E E3F F3A-F3D 1390-1399 1400
  169B-169C 17DB 17F0-180A 1940-1945 19DE-19FF 1B4E-1B4F 1B7F 200C-214D 218A-2335 237B-2394
  2396-26AB 26AD-27FF 2900-2BFF 2CE5-2CEA 2CF9-2CFF 2E00-3004 3008-3020 3030 3037 303D-303F 30A0
  30FB 31C0-31E5 4DC0-4DFF A490-A4C6 A60D-A60F A673-A67F A700-A721 A788 A828-A82B A838-A839
  A874-A877 AB6A-AB6B FBC3-FE46 10101 10140-1018C 10190-101A0 1091F 10B39-10B3F 10D6E
  10ED1-10ED8 11052-11065 11660-1166C 11FD5-11FF1 16FE2 1CC00-1CEF0 1D1E9-1D245 1D300-1D356
  1E2FF 1EEF0-1F12F 1F16D-1F16F 1F1AD 1F260-1FBFA"

/-- The direction of a character that can be in a domain name. -/
def direction (c : Char) : Direction :=
  if rightToLeft.has c then .right
  else if europeanNumbers.has c then .europeanNumber
  else if arabicNumbers.has c then .arabicNumber
  else if neutrals.has c then .neutral
  else if 0x80 ≤ c.toNat && Text.nonspacingMarks.has c then .mark
  else .left

/-- Whether characters go from right to left anywhere in a text. -/
def hasRightToLeft (text : List Char) : Bool :=
  text.any fun c => direction c = .right || direction c = .arabicNumber

def withoutMarks (directions : List Direction) : List Direction :=
  (directions.reverse.dropWhile (· = .mark)).reverse

/-- Whether a label keeps to one direction: that of its first character, which must be a letter. It
ends in a letter of that direction or a number, and does not mix two kinds of numbers. -/
def keepsDirection (label : List Char) : Bool :=
  match withoutMarks (label.map direction) with
  | [] => label.isEmpty
  | .left :: rest =>
    rest.all (fun d => d ≠ .right && d ≠ .arabicNumber)
      && rest.getLast?.all (fun d => d = .left || d = .europeanNumber)
  | .right :: rest =>
    rest.all (· ≠ .left)
      && rest.getLast?.all (fun d => d ≠ .neutral)
      && !(rest.contains .europeanNumber && rest.contains .arabicNumber)
  | _ => false

/-! ## Domains -/

def isForbidden (c : Char) : Bool :=
  c.toNat ≤ 0x20 || c.toNat == 0x7F || c == '#' || c == '/' || c == ':' || c == '<' || c == '>' ||
  c == '?' || c == '@' || c == '[' || c == '\\' || c == ']' || c == '^' || c == '|' || c == '%'

def isAscii (text : List Char) : Bool :=
  text.all (·.toNat < 0x80)

def labels (text : List Char) : List (List Char) :=
  match text with
  | [] => [[]]
  | c :: rest =>
    if c = '.' then [] :: labels rest
    else
      match labels rest with
      | [] => [[c]]
      | label :: more => (c :: label) :: more

/-- What a spelling in Punycode begins with. -/
def punycodeMark : List Char := ['x', 'n', '-', '-']

/-- The greatest length of a spelling in Punycode. -/
def spellingLimit : Nat := 2000

/-- The greatest length of a label that is to be spelled in Punycode. -/
def spelledLimit : Nat := 1000

/-- Whether a label that is not ASCII is fit for a domain: it does not look like a spelling of
another, does not begin with a mark, and has joiners only where they make a difference. -/
def isFit (label : List Char) : Bool :=
  !punycodeMark.isPrefixOf label && !label.head?.any Text.isMark && joinersFit [] label

/-- The label that a label stands for. A spelling must be one of a label in its form. -/
def spelled? (label : List Char) : Option (List Char) :=
  if punycodeMark.isPrefixOf label then
    let spelling := label.drop punycodeMark.length
    if spellingLimit < spelling.length then none
    else
      (Punycode.decode spelling).filter fun text =>
        !isAscii text && formOf? text = some text && isFit text
  else if isAscii label || (isFit label && label.length ≤ spelledLimit) then some label
  else none

def labelText (label : List Char) : List Char :=
  if isAscii label then label else punycodeMark ++ Punycode.encode label

def toAscii? (bytes : Bytes) : Option (List Char) := do
  let text ← formOf? (← Utf8.decode? bytes)
  let parts := labels text
  let spelled ← parts.mapM spelled?
  let fits := !spelled.any hasRightToLeft || spelled.all keepsDirection
  let domain := List.intercalate ['.'] (parts.map labelText)
  if !fits || domain.any isForbidden then none else some domain

end RLanguageHost.Uri.Domain
