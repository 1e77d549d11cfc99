import RLanguageHost.Utility.Batch
import RLanguageHost.Utility.Blocks
import RLanguageHost.Utility.Columns
import RLanguageHost.Utility.Edit.Run
import RLanguageHost.Utility.Exchange
import RLanguageHost.Utility.Files
import RLanguageHost.Utility.Records
import RLanguageHost.Utility.Search
import RLanguageHost.Utility.Sort

/-!
# The utilities of a machine

Each utility by its name: the inputs that it asks for, and its answer once they are there. These are
the names under which a script, or the settings, can start a program that is not a shell.
-/

namespace RLanguageHost.Utility

structure Program where
  /-- The inputs that a call asks for; a hyphen means the standard input. -/
  wants : Call → List String := fun _ => []
  run : Call → Answer
  /-- How it goes through its input, if it writes as it reads. -/
  pace? : Call → Option Pace := fun _ => none

/-- The operands of a call, or the standard input if there are none. -/
def operandsOr (g : Grammar) (arguments : List String) : List String :=
  match Options.read g {} arguments with
  | .ok o => if o.operands.isEmpty then ["-"] else o.operands
  | .error _ => []

def reader (g : Grammar) (run : Call → Answer) : Program where
  wants c := operandsOr g c.arguments
  run := run

/-- A utility that writes what it has made of its input while there is more to come. -/
def Program.flowing (p : Program) (byLines : Bool) : Program :=
  { p with pace? := fun c => some { lineByLine := c.isUnbuffered, byLines } }

def readers : List (String × Program) :=
  [("cat", { reader { flags := "AbeEnstTuv" } Lines.shown with
      pace? := fun _ => some { lineByLine := true } }),
    ("head", { wants := fun c => operandsOr Lines.endGrammar (Lines.endOptions c.arguments)
               run := fun c => Lines.portions c '-' Lines.front }),
    ("tail", { wants := fun c => operandsOr Lines.endGrammar (Lines.endOptions c.arguments)
               run := fun c => Lines.portions c '+' Lines.back }),
    ("tac", reader { flags := "br", valued := "s" } Lines.backwards),
    ("rev", (reader { flags := "" } Lines.turned).flowing true),
    ("nl", (reader { flags := "p", valued := "bwsvi" } Lines.numberLines).flowing true),
    ("paste", (reader { flags := "s", valued := "d",
                        long := [("serial", 's'), ("delimiters", 'd')] }
      Lines.sideBySide).flowing true),
    ("fold", (reader { flags := "bs", valued := "w" } Lines.folded).flowing true),
    ("wc", reader { flags := "clmwL", long := [("bytes", 'c'), ("chars", 'm'), ("lines", 'l'),
        ("words", 'w'), ("max-line-length", 'L')] } Lines.counted),
    ("expand", (reader { flags := "i", valued := "t" } Lines.expanded).flowing true),
    ("cut", (reader Columns.cutGrammar Columns.cut).flowing true),
    ("uniq", ({ wants := fun c => (operandsOr Columns.uniqGrammar c.arguments).take 1,
                run := Columns.unique } : Program).flowing true),
    ("comm", reader { flags := "123" } Columns.common),
    ("sort", reader Sort.grammar Sort.run),
    ("tr", ({ wants := fun _ => ["-"], run := Exchange.run } : Program).flowing false),
    ("grep", { wants := searched, run := Search.run, pace? := Search.pace? }),
    ("egrep", { wants := searched, run := Search.run, pace? := Search.pace? }),
    ("fgrep", { wants := searched, run := Search.run, pace? := Search.pace? }),
    ("sed", { wants := fun c => ((Edit.optionsOf c).map Edit.filesOf).toOption.getD []
              run := Edit.run, pace? := Edit.pace? }),
    ("base64", reader { flags := "di", valued := "w", long := [("decode", 'd'), ("wrap", 'w')] }
      Words.base64),
    ("od", reader { flags := "cbxvod", valued := "AtNjw"
                    long := [("address-radix", 'A'), ("format", 't')] } Words.dump),
    ("xargs", { wants := fun _ => ["-"], run := Batch.run }),
    ("cmp", reader { flags := "sl" } Files.compare)]
where
  /-- The inputs of a search; below directories that are searched all files. -/
  searched (c : Call) : List String :=
    match Search.optionsOf c with
    | .error _ => []
    | .ok o =>
      if o.has 'r' || o.has 'R' then
        let starts := if o.has 'e' then o.operands else o.operands.drop 1
        let starts := if starts.isEmpty then ["."] else starts
        starts.flatMap fun s =>
          match c.locate s with
          | .error _ => [s]
          | .ok (place, _) =>
            ((Files.walk c.tree Files.deepest 0 s place).filter fun f =>
              c.tree.entry? f.2.1 ≠ some .directory).map (·.1)
      else Search.filesOf o

/-- The utilities that work on words and files alone. -/
def workers : List (String × (Call → Answer)) :=
  [("true", fun _ => {}), ("false", fun _ => .ofStatus 1), ("sync", fun _ => {}),
    ("echo", fun c => .ofText (Shell.Format.echo .program c.arguments)),
    ("printf", Words.formatted), ("test", Words.condition), ("[", Words.condition),
    ("seq", Words.count), ("expr", Words.evaluate), ("basename", Words.baseNames),
    ("dirname", Words.directories), ("printenv", Words.printVariables),
    ("pwd", fun c => .ofText (pathText c.directory ++ "\n")),
    ("which", Words.whichPrograms), ("uname", Words.systemName), ("id", Words.identity),
    ("arch", fun _ => .ofText "x86_64\n"), ("whoami", fun _ => .ofText "root\n"),
    ("nproc", fun _ => .ofText "4\n"),
    ("tty", fun _ => { Answer.ofText "not a tty\n" with status := 1 }),
    ("mkdir", Files.makeDirectories), ("rmdir", Files.removeDirectories), ("rm", Files.remove),
    ("touch", Files.touch), ("cp", Files.transferAll false), ("mv", Files.transferAll true),
    ("ln", Files.link), ("chmod", Files.changeMode), ("ls", Files.list), ("dir", Files.list),
    ("find", Files.find), ("realpath", Files.realPaths), ("readlink", Files.realPaths)]

def program? (name : String) : Option Program :=
  (readers.lookup name).or ((workers.lookup name).map fun run => { run })

/-- The utilities that ask for what they need while they run. -/
def talkers : List (String × (Call → List Reply → Turn)) :=
  [("awk", Records.turn), ("mawk", Records.turn), ("dd", Blocks.turn)]

/-- The names of the utilities. -/
def names : List String :=
  readers.map (·.1) ++ workers.map (·.1) ++ talkers.map (·.1)

end RLanguageHost.Utility
