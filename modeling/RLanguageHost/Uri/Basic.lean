/-!
# URIs

A URI in its normal form. The path is kept as text: it starts with a slash, unless the URI is opaque
such as `untitled:Untitled-1`, or has an authority and nothing after it.

`Uri.text` is the URI written out. Documents, folders and scope keys are told apart by this text.
-/

namespace RLanguageHost

/-- A URI in normal form. -/
structure Uri where
  /-- The scheme in lower case. -/
  scheme : String
  /-- What stands between the two slashes after the scheme and the path, if the slashes are there. A
  `file` URI without a host has the empty authority. -/
  authority : Option String
  /-- The path, with escapes. -/
  path : String
  query : Option String
  fragment : Option String
  deriving Repr, DecidableEq, Inhabited

namespace Uri

/-- What stands between the scheme's colon and the path. A path that starts with two slashes is kept
from looking like an authority. -/
def beforePath (uri : Uri) : List Char :=
  match uri.authority with
  | some a => ['/', '/'] ++ a.toList
  | none => if ['/', '/'].isPrefixOf uri.path.toList then ['/', '.'] else []

/-- A part after a mark, or nothing. -/
def marked (mark : Char) : Option String → List Char
  | some part => mark :: part.toList
  | none => []

def text (uri : Uri) : String :=
  String.ofList (uri.scheme.toList ++ [':'] ++ uri.beforePath ++ uri.path.toList ++
    marked '?' uri.query ++ marked '#' uri.fragment)

/-- Whether the path is one of segments after slashes. -/
def isHierarchical (uri : Uri) : Bool :=
  uri.path.toList.head? = some '/'

end Uri

end RLanguageHost
