/-!
# Facts about words

What conditions ask about words: files, variables and options.
-/

namespace RLanguageHost.Shell

/-- What is known about words. -/
structure Facts where
  /-- Whether what a letter asks for holds of a word. -/
  holds : Char → String → Bool
  /-- Whether two paths lead to the same file. -/
  isSame : String → String → Bool := fun _ _ => false

/-- Whether an operator between two paths holds. A file that is there is newer than one that is not;
of two files that are there none counts as newer. -/
def Facts.related (facts : Facts) (op a b : String) : Bool :=
  match op with
  | "-nt" => facts.holds 'e' a && !facts.holds 'e' b
  | "-ot" => facts.holds 'e' b && !facts.holds 'e' a
  | "-ef" => facts.isSame a b
  | _ => false

end RLanguageHost.Shell
