import RLanguageHost.Decimal.Printed
import RLanguageHost.Shell.Arithmetic
import RLanguageHost.Shell.Change

/-!
# Formatted output of commands

The output of `echo` and `printf`: backslashes write characters by name or by number, and a format
puts arguments into text. A format is used again until all arguments are put in.

The two shells and the program of the system's own agree on most formats, and each has its own words
for what is wrong with one.
-/

namespace RLanguageHost.Shell.Format

inductive Style where
  | posix
  | bash
  /-- The program that is no part of a shell. -/
  | program
  deriving Repr, DecidableEq, Inhabited

def Style.ofDialect (d : Dialect) : Style :=
  d.choose .posix .bash

/-- The characters that backslashes write by a letter. -/
def named : List (Char × Char) :=
  [('a', '\x07'), ('b', '\x08'), ('e', '\x1b'), ('f', '\x0c'), ('n', '\n'), ('r', '\r'),
    ('t', '\t'), ('v', '\x0b'), ('\\', '\\')]

inductive Place where
  /-- In a format. -/
  | format
  /-- In an argument of a format. -/
  | argument
  /-- In what `echo` writes. -/
  | echoed
  deriving Repr, DecidableEq, Inhabited

/-- What the characters after a backslash write, and what follows them; none ends all output. -/
def escape (style : Style) (place : Place) (cs : List Char) : Option (List Char × List Char) :=
  match cs with
  | [] => some (['\\'], [])
  | c :: rest =>
    let numbered (size base : Nat) (isDigit : Char → Bool) (digits : List Char) :
        List Char × List Char :=
      let found := (digits.take size).takeWhile isDigit
      ([Char.ofNat (numberIn base found % 256)], digits.drop found.length)
    if isOctalDigit c && !(place = .echoed && c ≠ '0' && style ≠ .posix) then
      if place ≠ .format && c = '0' then some (numbered 3 8 isOctalDigit rest)
      else some (numbered 3 8 isOctalDigit cs)
    else if c = 'x' && style ≠ .posix && rest.head?.any isHexDigit then
      some (numbered 2 16 isHexDigit rest)
    else if c = 'c' && (place ≠ .format || style = .program) then none
    else if c = 'E' && style = .bash then some (['\x1b'], rest)
    else if place = .format && style ≠ .posix && c = '"' then some (['"'], rest)
    else if place = .format && style = .bash && (c = '\x27' || c = '?') then some ([c], rest)
    else
      match named.lookup c with
      | some d => some ([d], rest)
      | none => some (['\\', c], rest)

structure Reading where
  text : List Char
  /-- Whether the text asks to write nothing more. -/
  stopped : Bool := false

/-- Reads the characters that backslashes write. -/
def unescape (style : Style) (place : Place) : (fuel : Nat) → List Char → Reading
  | 0, _ => ⟨[], false⟩
  | _, [] => ⟨[], false⟩
  | fuel + 1, '\\' :: rest =>
    match escape style place rest with
    | none => ⟨[], true⟩
    | some (front, rest) =>
      let r := unescape style place fuel rest
      { r with text := front ++ r.text }
  | fuel + 1, c :: rest =>
    let r := unescape style place fuel rest
    { r with text := c :: r.text }

def echo (style : Style) (arguments : List String) : String :=
  let (newline, escapes, arguments) := options true (style = .posix) arguments
  let text := " ".intercalate arguments
  if escapes then
    let r := unescape style .echoed (text.length + 1) text.toList
    String.ofList r.text ++ (if r.stopped || !newline then "" else "\n")
  else text ++ (if newline then "\n" else "")
where
  /-- The options at the start of the arguments. The small shell knows one only, and always writes
  what backslashes stand for. -/
  options (newline escapes : Bool) : List String → Bool × Bool × List String
    | [] => (newline, escapes, [])
    | a :: rest =>
      if style = .posix then
        if a = "-n" then (false, escapes, rest) else (newline, escapes, a :: rest)
      else
        let flags := a.toList.drop 1
        if a.startsWith "-" && !flags.isEmpty && flags.all (fun c => "neE".toList.contains c) then
          let escapes := flags.foldl (fun e c => if c = 'e' then true else if c = 'E' then false
            else e) escapes
          options (newline && !flags.contains 'n') escapes rest
        else (newline, escapes, a :: rest)

/-- A place in a format where an argument is put in. -/
structure Directive where
  flags : List Char
  width : Nat
  precision : Option Nat
  conversion : Char
  /-- The text of the directive after its percent sign. -/
  shown : List Char

structure Pass where
  /-- The text that was written, in pieces. -/
  text : List Char := []
  arguments : List String
  /-- Whether an argument was taken. -/
  took : Bool := false
  /-- Whether nothing more is to be written. -/
  stopped : Bool := false
  /-- What is reported. -/
  faults : List String := []
  status : Nat := 0

def Pass.take (p : Pass) : Option String × Pass :=
  (p.arguments.head?, { p with arguments := p.arguments.drop 1
                               took := p.took || !p.arguments.isEmpty })

def Pass.add (p : Pass) (text : List Char) : Pass :=
  { p with text := p.text ++ text }

def Pass.report (p : Pass) (fault : String) : Pass :=
  { p with faults := p.faults ++ [fault], status := 1 }

def Pass.giveUp (p : Pass) (fault : String) (status : Nat) : Pass :=
  { p with faults := p.faults ++ [fault], status, stopped := true }

/-- The end of the range of numbers. -/
def wordBound : Int := 18446744073709551616

/-- What the number of an argument is, and what is wrong with it. A quote before a character gives
the number of the character. -/
def numberOf (style : Style) (argument : String) : Int × Option String :=
  match argument.toList with
  | [] => (0, none)
  | '\x27' :: rest | '"' :: rest => ((rest.head?.map fun c => (c.toNat : Int)).getD 0, none)
  | cs =>
    let trimmed := cs.dropWhile fun c => c = ' ' || ('\t' ≤ c && c ≤ '\r')
    let (negative, digits) :=
      match trimmed with
      | '-' :: rest => (true, rest)
      | '+' :: rest => (false, rest)
      | rest => (false, rest)
    match Arithmetic.leadingNumber? digits with
    | none => (0, some (bad style argument))
    | some (n, rest) =>
      let n : Int := if negative then -(n : Int) else n
      let low : Int := -(wordBound / 2)
      let high : Int := wordBound / 2 - 1
      if !rest.isEmpty then (n, some (incomplete style argument))
      else if n < low then (low, some (outside style argument))
      else if high < n then (high, some (outside style argument))
      else (n, none)
where
  /-- What is said about an argument that starts with no number. -/
  bad (style : Style) (a : String) : String :=
    match style with
    | .posix => a ++ ": expected numeric value"
    | .bash => a ++ ": invalid number"
    | .program => "\x27" ++ a ++ "\x27: expected a numeric value"
  /-- What is said about an argument that goes on after its number. -/
  incomplete (style : Style) (a : String) : String :=
    match style with
    | .posix => a ++ ": not completely converted"
    | .bash =>
      a ++ (if a.startsWith "0" && !(a.startsWith "0x") then ": invalid octal number"
        else if a.startsWith "0x" then ": invalid hex number" else ": invalid number")
    | .program => "\x27" ++ a ++ "\x27: value not completely converted"
  /-- What is said about a number that is too large. -/
  outside (style : Style) (a : String) : String :=
    match style with
    | .posix => a ++ ": Numerical result out of range"
    | .bash => "warning: " ++ a ++ ": Numerical result out of range"
    | .program => "\x27" ++ a ++ "\x27: Numerical result out of range"

/-- A text brought to the width of a directive. -/
def pad (d : Directive) (text : List Char) : List Char :=
  let fill := d.width - text.length
  if d.flags.contains '-' then text ++ List.replicate fill ' '
  else List.replicate fill ' ' ++ text

def signOf (d : Directive) (negative : Bool) : List Char :=
  if negative then ['-'] else if d.flags.contains '+' then ['+']
  else if d.flags.contains ' ' then [' '] else []

def padNumber (d : Directive) (front digits : List Char) (byZeros : Bool) : List Char :=
  if d.flags.contains '0' && !d.flags.contains '-' && byZeros then
    front ++ List.replicate (d.width - front.length - digits.length) '0' ++ digits
  else pad d (front ++ digits)

/-- A whole number as a directive writes it. -/
def integer (d : Directive) (n : Int) : List Char :=
  let isSigned := d.conversion = 'd' || d.conversion = 'i'
  let base := if d.conversion = 'o' then 8 else if d.conversion.toLower = 'x' then 16 else 10
  let size : Nat := if isSigned then n.natAbs else (n % wordBound).toNat
  let ds := if size = 0 && d.precision = some 0 then [] else Nat.toDigits base size
  let ds := if d.conversion = 'X' then ds.map Char.toUpper else ds
  let ds := List.replicate (d.precision.getD 0 - ds.length) '0' ++ ds
  let alternative := d.flags.contains '#'
  let ds := if alternative && base = 8 && ds.head? ≠ some '0' then '0' :: ds else ds
  let front := if isSigned then signOf d (n < 0)
    else if alternative && base = 16 && size ≠ 0 then ['0', d.conversion] else []
  padNumber d front ds d.precision.isNone

def fraction (d : Directive) (negative : Bool) (r : Decimal.Ratio) : List Char :=
  let places := d.precision.getD 6
  let alternative := d.flags.contains '#'
  let ds :=
    match d.conversion.toLower with
    | 'f' => r.fixed places alternative
    | 'e' => r.scientific places alternative
    | _ => r.general places alternative
  let ds := if d.conversion.isUpper then ds.map Char.toUpper else ds
  padNumber d (signOf d negative) ds true

/-- The fraction of an argument, rounded to so many binary digits, and what is wrong with it. -/
def ratioOf (style : Style) (argument : String) : Bool × Decimal.Ratio × Option String :=
  let bits := if style = .posix then 53 else 64
  match argument.toList with
  | [] => (false, ⟨0, 1⟩, none)
  | '\x27' :: rest | '"' :: rest => (false, ⟨(rest.head?.map Char.toNat).getD 0, 1⟩, none)
  | cs =>
    let trimmed := cs.dropWhile fun c => c = ' ' || ('\t' ≤ c && c ≤ '\r')
    let (negative, digits) :=
      match trimmed with
      | '-' :: rest => (true, rest)
      | '+' :: rest => (false, rest)
      | rest => (false, rest)
    match Decimal.Ratio.ofText? digits with
    | none => (false, ⟨0, 1⟩, some (numberOf.bad style argument))
    | some (r, rest) =>
      let fault :=
        if rest.isEmpty then none
        else some (match style with
          | .bash => argument ++ ": invalid number"
          | _ => numberOf.incomplete style argument)
      (negative, r.toBinary bits, fault)

/-- A number at the start of a text, or that of the next argument in place of a star. -/
def size (cs : List Char) (p : Pass) : Option Int × List Char × Pass :=
  match cs with
  | '*' :: rest =>
    let (a, p) := p.take
    (some (Arithmetic.valueOf (a.getD "")), rest, p)
  | _ =>
    let ds := cs.takeWhile Char.isDigit
    (if ds.isEmpty then none else some (numberIn 10 ds : Nat), cs.drop ds.length, p)

/-- Reads a directive after its percent sign; none if the format ends in it. -/
def directive (style : Style) (cs : List Char) (p : Pass) :
    Option (Directive × List Char) × List Char × Pass :=
  let flags := cs.takeWhile fun c => "-+ #0".toList.contains c
  let (width, rest, p) := size (cs.drop flags.length) p
  let flags := if width.any (· < 0) then '-' :: flags else flags
  let (precision, rest, p) : Option Nat × List Char × Pass :=
    match rest with
    | '.' :: rest =>
      let (n, rest, p) := size rest p
      (if n.any (· < 0) then none else some ((n.getD 0).toNat), rest, p)
    | _ => (none, rest, p)
  let rest := if style = .posix then rest
    else rest.dropWhile fun c => "hlLjzt".toList.contains c
  match rest with
  | [] => (none, cs, p)
  | c :: after =>
    (some (⟨flags, (width.getD 0).natAbs, precision, c, cs.take (cs.length - after.length)⟩, after),
      cs, p)

/-- What is said about a directive that there is not. -/
def unknownDirective (style : Style) (d : Directive) : String × Nat :=
  match style with
  | .posix => ("%" ++ String.ofList d.shown ++ ": invalid directive", 2)
  | .bash => ("\x60" ++ String.ofList [d.conversion] ++ "\x27: invalid format character", 1)
  | .program => ("%" ++ String.ofList d.shown ++ ": invalid conversion specification", 1)

/-- What is said about a format that ends in a directive. -/
def cutDirective (style : Style) (shown : List Char) : String × Nat :=
  match style with
  | .posix => ("missing format character", 2)
  | .bash => ("\x60%" ++ String.ofList shown ++ "\x27: missing format character", 1)
  | .program => ("%" ++ String.ofList shown ++ ": invalid conversion specification", 1)

/-- A text as the program of the system's own quotes it. -/
def programQuoted (s : String) : String :=
  if s ≠ "" && s.toList.all fun c => c.isAlphanum || "_-./:@%+,".toList.contains c then s
  else if s.contains '\x27' && !s.toList.any fun c => "\"$\x60\\!".toList.contains c then
    "\"" ++ s ++ "\""
  else Change.singleQuoted s

/-- Puts an argument in where a directive asks for it. -/
def putIn (style : Style) (d : Directive) (p : Pass) : Pass :=
  let (given, p) := p.take
  let argument := given.getD ""
  let cut (t : List Char) : List Char := (d.precision.map t.take).getD t
  match d.conversion with
  | 's' => p.add (pad d (cut argument.toList))
  | 'b' =>
    let r := unescape style .argument (argument.length + 1) argument.toList
    { p.add (pad d (cut r.text)) with stopped := r.stopped }
  | 'c' =>
    p.add (pad d (if argument = "" then (if style = .bash && given.isNone then [] else ['\x00'])
      else argument.toList.take 1))
  | 'd' | 'i' | 'u' | 'o' | 'x' | 'X' =>
    let (n, fault) := numberOf style argument
    let p := (fault.map p.report).getD p
    p.add (integer d n)
  | 'f' | 'F' | 'e' | 'E' | 'g' | 'G' =>
    let (negative, r, fault) := ratioOf style argument
    let p := (fault.map p.report).getD p
    p.add (fraction d negative r)
  | 'q' =>
    match style with
    | .bash => p.add (pad d (Change.backslashed argument).toList)
    | .program => p.add (pad d (programQuoted argument).toList)
    | .posix =>
      let (fault, status) := unknownDirective style d
      p.giveUp fault status
  | _ =>
    let (fault, status) := unknownDirective style d
    p.giveUp fault status

def once (style : Style) : (fuel : Nat) → List Char → Pass → Pass
  | 0, _, p => p
  | _, [], p => p
  | fuel + 1, '%' :: '%' :: rest, p => once style fuel rest (p.add ['%'])
  | fuel + 1, '%' :: rest, p =>
    match directive style rest p with
    | (none, shown, p) =>
      let (fault, status) := cutDirective style shown
      p.giveUp fault status
    | (some (d, rest), _, p) =>
      let p := putIn style d p
      if p.stopped then p else once style fuel rest p
  | fuel + 1, '\\' :: rest, p =>
    match escape style .format rest with
    | none => { p with stopped := true }
    | some (written, rest) => once style fuel rest (p.add written)
  | fuel + 1, c :: rest, p => once style fuel rest (p.add [c])

/-- Writes a format until all arguments are put in. -/
def whole (style : Style) (format : List Char) : (fuel : Nat) → Pass → Pass
  | 0, p => p
  | fuel + 1, p =>
    let p := once style (format.length + 1) format { p with took := false }
    if p.stopped || p.arguments.isEmpty || !p.took then p else whole style format fuel p

def printf (style : Style) (format : String) (arguments : List String) : Pass :=
  whole style format.toList (arguments.length + 1) { arguments }

def Pass.written (p : Pass) : String :=
  String.ofList p.text

end RLanguageHost.Shell.Format
