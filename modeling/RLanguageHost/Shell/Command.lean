import RLanguageHost.Shell.Token

/-!
# Shell commands

What a script asks for: simple commands, and what joins them. A pipeline of more than two commands
is a pipeline whose second command is a pipeline.
-/

namespace RLanguageHost.Shell

inductive Opening where
  | input
  | output
  | appending
  | both
  /-- The target is the number of a stream, or a hyphen to close. -/
  | sameAs
  /-- The target is the text itself. -/
  | document
  /-- The target is the text itself, on a line. -/
  | line
  deriving Repr, DecidableEq, Inhabited

/-- A stream of a command that is led elsewhere. -/
structure Redirection where
  stream : Nat
  opening : Opening
  target : Word
  deriving Repr, DecidableEq, Inhabited

/-- An assignment to a variable, or to an element of an array. -/
structure Assignment where
  name : String
  subscript : Option String := none
  /-- Whether the value is added to the old one. -/
  appends : Bool := false
  value : Word
  deriving Repr, DecidableEq, Inhabited

/-- A simple command: assignments, words and redirections. -/
structure Simple where
  line : Nat
  assignments : List Assignment := []
  words : List Word := []
  redirections : List Redirection := []
  deriving Repr, DecidableEq, Inhabited

/-- A condition between brackets. -/
inductive Test where
  | word (w : Word)
  | unary (op : String) (w : Word)
  | binary (op : String) (a b : Word)
  | negation (t : Test)
  | both (a b : Test)
  | either (a b : Test)
  deriving Repr, DecidableEq, Inhabited

inductive Command where
  | nothing
  | simple (simple : Simple)
  | sequence (first second : Command)
  | both (first second : Command)
  | either (first second : Command)
  | negation (command : Command)
  /-- Two commands of which the second reads what the first one writes; `errors` says whether it
  also reads what the first one reports. -/
  | pipeline (errors : Bool) (first second : Command)
  | background (command : Command)
  | subshell (command : Command)
  | redirected (line : Nat) (command : Command) (redirections : List Redirection)
  | conditional (test yes no : Command)
  /-- Repeats while the test succeeds, or until it does. -/
  | loop (untilSuccess : Bool) (test body : Command)
  /-- Repeats for each of some words; without words for each parameter of the script. -/
  | each (line : Nat) (name : String) (words : Option (List Word)) (body : Command)
  /-- Repeats while a number is not zero, and evaluates another one after each round. -/
  | counted (line : Nat) (start test step : String) (body : Command)
  /-- Chooses the first arm of which a pattern matches. -/
  | choice (line : Nat) (subject : Word) (arms : Command)
  /-- After the body the others are looked at no more, or go on with the next body, or are looked at
  as well. -/
  | arm (patterns : List Word) (ending : String) (body others : Command)
  | define (name : String) (body : Command)
  | arithmetic (line : Nat) (source : String)
  | test (line : Nat) (test : Test)
  /-- Says something and changes nothing. -/
  | warning (line : Nat) (text : String)
  deriving Repr, DecidableEq, Inhabited

end RLanguageHost.Shell
