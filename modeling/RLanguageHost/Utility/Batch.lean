import RLanguageHost.Shell.Change
import RLanguageHost.Utility.Words

/-!
# Commands from inputs

`xargs`: the words of an input become the arguments of commands. The commands are carried out by a
script, which is the answer.
-/

namespace RLanguageHost.Utility.Batch

/-- Reads the items of an input. With `byLines` only newlines separate them. -/
def items (byLines : Bool) : (fuel : Nat) → (current : Option (List Char)) → List Char →
    Except Char (List String)
  | 0, _, _ => .ok []
  | _, current, [] => .ok ((current.map fun c => String.ofList c.reverse).toList)
  | fuel + 1, current, c :: rest =>
    let isBreak := c = '\n' || (!byLines && (c = ' ' || c = '\t'))
    if isBreak then do
      let more ← items byLines fuel none rest
      return (current.map fun c => String.ofList c.reverse).toList ++ more
    else if byLines && current.isNone && (c = ' ' || c = '\t') then items byLines fuel none rest
    else if c = '\x27' || c = '"' then
      let inner := rest.takeWhile fun d => d ≠ c && d ≠ '\n'
      match rest.drop inner.length with
      | d :: rest =>
        if d = c then items byLines fuel (some (inner.reverse ++ current.getD [])) rest
        else .error c
      | [] => .error c
    else if c = '\\' then
      match rest with
      | d :: rest => items byLines fuel (some (d :: current.getD [])) rest
      | [] => items byLines fuel current []
    else items byLines fuel (some (c :: current.getD [])) rest

def groups (size : Nat) : (fuel : Nat) → List String → List (List String)
  | 0, _ | _, [] => []
  | fuel + 1, ws => ws.take size :: groups size fuel (ws.drop size)

def grammar : Grammar where
  flags := "0rtpxo"
  valued := "nILdsPEa"
  long := [("null", '0'), ("no-run-if-empty", 'r'), ("max-args", 'n'), ("replace", 'I'),
    ("delimiter", 'd'), ("max-procs", 'P'), ("max-lines", 'L'), ("verbose", 't')]
  permutes := false

def itemsOf (o : Options) (input : Bytes) : Except Char (List String) :=
  let text := Shell.textOf input
  let parts (mark : String) : List String :=
    let all := text.splitOn mark
    if all.getLast? = some "" then all.dropLast else all
  if o.has '0' then .ok (parts "\x00")
  else
    match o.value? 'd' with
    | some "\\n" => .ok (parts "\n")
    | some "\\t" => .ok (parts "\t")
    | some d => .ok (parts d)
    | none =>
      items ((o.value? 'I').isSome || (o.value? 'L').isSome) (text.length + 1) none text.toList

/-- A text with another one in the place of a mark. -/
def replaced (mark new s : String) : String :=
  if mark = "" then s else new.intercalate (s.splitOn mark)

/-- What `xargs` answers. -/
def run (c : Call) : Answer :=
  c.withOptions grammar 1 fun o =>
    match itemsOf o (c.allInput 1).1 with
    | .error quote =>
      .fault "xargs" ("unmatched " ++ (if quote = '"' then "double" else "single")
        ++ " quote; by default quotes are special to xargs unless you use the -0 option") 1
    | .ok found =>
      let command := if o.operands.isEmpty then ["echo"] else o.operands
      let calls : List (List String) :=
        match o.value? 'I' with
        | some mark => found.map fun item => command.map (replaced mark item)
        | none =>
          let size := (((o.value? 'n').or (o.value? 'L')).bind String.toNat?).getD 1000000
          if found.isEmpty then if o.has 'r' then [] else [command]
          else (groups (max size 1) (found.length + 1) found).map (command ++ ·)
      match calls.find? fun ws => (Words.placesOf c (ws.head?.getD "")).isEmpty with
      | some ws => .fault "xargs" (ws.head?.getD "" ++ ": No such file or directory") 127
      | none =>
        let line (ws : List String) : String :=
          (if o.has 't' then "echo " ++ words ws ++ " >&2\n" else "")
            ++ "env -- " ++ words ws ++ " || s=123\n"
        { script := some ("s=0\n" ++ String.join (calls.map line) ++ "exit $s\n") }
where
  /-- Words as they stand in a script. -/
  words (ws : List String) : String := " ".intercalate (ws.map Shell.Change.singleQuoted)

end RLanguageHost.Utility.Batch
