import RLanguageHost.Shell.Command

/-!
# Reading conditions between brackets

How the items between two pairs of brackets make a condition. Words are compared in pairs, asked for
one by one, or taken as they are; a fault is told at the first item that does not fit.
-/

namespace RLanguageHost.Shell

/-- Why a condition cannot be read: what is said about it, with lines, and the text near the fault,
unless this is the end of the script. -/
structure TestFault where
  line : Nat
  texts : List (Nat × String) := []
  near : Option String := none

/-- What a message about a condition calls an item. -/
def TestToken.called (t : TestToken) : Option String :=
  match t.item with
  | .operator op => some ("\x60" ++ op ++ "\x27")
  | .word _ => none

/-- The fault at an item: what was not expected, and in which place. -/
def TestToken.fault (t : TestToken) (named unnamed after : String) : TestFault where
  line := t.line
  texts :=
    let text := match t.called with
      | some name => named ++ name ++ after
      | none => unnamed
    if text = "" then [] else [(t.line, text)]
  near := some t.near

namespace Test

def skipNewlines (ts : List TestToken) : List TestToken :=
  ts.dropWhile fun t => t.item = .operator "newline"

/-- Reads a condition whose first item is on some line. -/
def ofTokens (line lastLine : Nat) (ts : List TestToken) : Except TestFault Test := do
  let (t, rest) ← either (4 * ts.length + 4) ts
  match rest with
  | [] =>
    .error { line := lastLine, texts := [(line, "unexpected EOF while looking for \x60]]\x27")] }
  | last :: _ =>
    if last.item = .operator "]]" then return t
    else
      .error (last.fault "syntax error in conditional expression: unexpected token "
        "syntax error in conditional expression" "")
where
  /-- The fault at the end of the script. -/
  atEnd : TestFault :=
    { line := lastLine
      texts := [(lastLine, "unexpected token \x60EOF\x27 in conditional command")] }
  /-- Reads conditions of which one has to hold. -/
  either : (fuel : Nat) → List TestToken → Except TestFault (Test × List TestToken)
    | 0, _ => .error atEnd
    | fuel + 1, ts => do
      let (a, rest) ← all fuel ts
      match rest with
      | ⟨.operator "||", _, _⟩ :: rest =>
        let (b, rest) ← either fuel rest
        return (.either a b, rest)
      | _ => return (a, rest)
  /-- Reads conditions that have to hold together. -/
  all : (fuel : Nat) → List TestToken → Except TestFault (Test × List TestToken)
    | 0, _ => .error atEnd
    | fuel + 1, ts => do
      let (a, rest) ← one fuel ts
      match rest with
      | ⟨.operator "&&", _, _⟩ :: rest =>
        let (b, rest) ← all fuel rest
        return (.both a b, rest)
      | _ => return (a, rest)
  /-- Reads one condition. -/
  one : (fuel : Nat) → List TestToken → Except TestFault (Test × List TestToken)
    | 0, _ => .error atEnd
    | fuel + 1, ts =>
      match skipNewlines ts with
      | [] => .error atEnd
      | ⟨.operator "(", _, _⟩ :: rest =>
        match either fuel rest with
        | .error fault =>
          .error { fault with texts := fault.texts ++ [(fault.line, "expected \x60)\x27")] }
        | .ok (_, []) => .error atEnd
        | .ok (t, last :: rest) =>
          if last.item = .operator ")" then .ok (t, skipNewlines rest)
          else .error (last.fault "unexpected token " "expected \x60)\x27" ", expected \x60)\x27")
      | ⟨.word w, _, _⟩ :: rest =>
        if w.bare? = some "!" then do
          let (t, rest) ← one fuel rest
          return (.negation t, rest)
        else if w.bare?.any isUnary then
          match rest with
          | ⟨.word a, _, _⟩ :: rest =>
            .ok (.unary (w.bare?.getD "") a, skipNewlines rest)
          | t :: _ =>
            .error (t.fault "unexpected argument " "" " to conditional unary operator")
          | [] => .error atEnd
        else
          match rest with
          | [] => .error atEnd
          | t :: rest' =>
            match t.item, comparison? t with
            | _, some op =>
              match rest' with
              | ⟨.word b, _, _⟩ :: rest => .ok (.binary op w b, skipNewlines rest)
              | t :: _ =>
                .error (t.fault "unexpected argument " "" " to conditional binary operator")
              | [] => .error atEnd
            | .operator op, none =>
              if ["]]", "&&", "||", ")"].contains op then .ok (.word w, rest)
              else
                .error (t.fault "unexpected token " "" ", conditional binary operator expected")
            | .word _, none =>
              .error (t.fault "" "conditional binary operator expected" "")
      | t :: _ =>
        if t.item = .operator "]]" then .error { line := t.line, near := some t.near }
        else .error (t.fault "unexpected token " "" " in conditional command")
  /-- The operator with which an item compares words. -/
  comparison? (t : TestToken) : Option String :=
    match t.item with
    | .operator op => if op = "<" || op = ">" then some op else none
    | .word w => w.bare?.filter binaryOperators.contains
  /-- Whether a word asks for something of the word after it. -/
  isUnary (op : String) : Bool :=
    match op.toList with
    | ['-', c] => "abcdefghknoprstuvwxzGLNORS".toList.contains c
    | _ => false
  /-- The words that compare two words. -/
  binaryOperators : List String :=
    ["=", "==", "!=", "=~", "-eq", "-ne", "-gt", "-ge", "-lt", "-le", "-nt", "-ot", "-ef"]

end Test

end RLanguageHost.Shell
