import RLanguageHost.Machine.Redirection
import RLanguageHost.Machine.Actor
import RLanguageHost.Shell.Listing

/-!
# Traces

What a shell shows of the commands that it runs when it is told to.
-/

namespace RLanguageHost.Machine.Actor

/-- What begins a line of a trace. The larger shell repeats its first character for every level of
texts and substitutions that the command is in. -/
def traceLead (a : Actor) : String :=
  let text := (a.s.value? "PS4").getD ""
  let text :=
    match Shell.Expansion.textOf a.s .document text with
    | .ok (t, _) => t
    | .error _ => text
  match a.s.dialect, text.toList with
  | .bash, c :: _ =>
    let texts := a.s.frames.countP fun f => match f with | .leaveText .. => true | _ => false
    String.ofList (List.replicate (texts + a.s.depth) c) ++ text
  | _, _ => text

/-- Shows a line, if the shell is told to. -/
def trace (a : Actor) (text : String) : Actor :=
  if a.s.options.traces then a.note 2 (a.traceLead ++ text ++ "\n") else a

def tracedWord (a : Actor) (word : String) : String :=
  match a.s.dialect with
  | .posix => word
  | .bash => if word = "" then "\x27\x27" else Shell.Listing.bashValue word

/-- The text of an array as it stands in a script, as far as traces need it. -/
def shownArray (w : Shell.Word) : String :=
  let shown := (Shell.Expansion.entries w).map fun (key, appends, value) =>
    ((key.map fun k => "[" ++ k ++ "]" ++ if appends then "+=" else "=").getD "") ++ shownWord value
  "(" ++ " ".intercalate shown ++ ")"

def traceCommand (a : Actor) (assigned : List (String × String)) (words : List String) : Actor :=
  if !a.s.options.traces then a
  else
    match a.s.dialect with
    | .posix => a.trace (" ".intercalate (assigned.map (fun v => v.1 ++ "=" ++ v.2) ++ words))
    | .bash =>
      let a := assigned.foldl (fun (a : Actor) v =>
        let value := if v.2.startsWith "(" || v.2 = "" then v.2 else a.tracedWord v.2
        a.trace (v.1 ++ "=" ++ value)) a
      if words.isEmpty then a else a.trace (" ".intercalate (words.map a.tracedWord))

end RLanguageHost.Machine.Actor
