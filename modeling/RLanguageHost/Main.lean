import RLanguageHost.Host.Program

/-!
# The command line program

The outer layer around `Host.run`: it gathers the words of the command line, the environment, the
files of the current directory and the events on standard input, and afterwards writes the files
that have changed, says why the host could not begin, and returns the exit code.
-/

namespace RLanguageHost.Main

/-- The variables of the environment that the host and its servers look at. -/
def variableNames : List String :=
  ["PATH", "HOME", Server.langVariable, Host.installationVariable] ++
    [Log.Config.Variable.level, .file, .unique, .json].map (·.name)

def environment : IO (List (String × String)) :=
  variableNames.filterMapM fun name => do return (← IO.getEnv name).map (name, ·)

/-- How deep the directories are that are looked into. -/
def depth : Nat := 4

/-- Adds a file, or the files below a directory. Those that cannot be read are left out. -/
def addEntry : (depth : Nat) → IO.FS.DirEntry → FileTree → IO FileTree
  | 0, _, tree => pure tree
  | depth + 1, entry, tree => do
    let path := FilePath.ofString entry.path.toString
    try
      if ← entry.path.isDir then
        (← entry.path.readDir).foldlM (fun tree e => addEntry depth e tree)
          (tree.makeDirectories (FileTree.placeOf path))
      else return tree.install path (← IO.FS.readBinFile entry.path).toList
    catch _ => return tree

/-- Writes the files in which a tree differs from another one. -/
def writeFiles (before after : FileTree) : IO Unit := do
  for (place, entry) in after.entries.reverse do
    if before.entry? place ≠ some entry then
      match entry with
      | .directory => IO.FS.createDirAll (FileTree.path place).text
      | .file content _ => IO.FS.writeBinFile (FileTree.path place).text ⟨content.toArray⟩

partial def readAll (stream : IO.FS.Stream) (read : ByteArray) : IO ByteArray := do
  let more ← stream.read 65536
  if more.isEmpty then return read else readAll stream (read ++ more)

def run (words : List String) : IO UInt32 := do
  let here ← IO.currentDir
  let directory := FilePath.ofString here.toString
  let tree ← (← here.readDir).foldlM (fun tree e => addEntry depth e tree)
    (Machine.baseTree.makeDirectories (FileTree.placeOf directory))
  let around : Machine.Surroundings := { directory, environment := ← environment }
  let input ← readAll (← IO.getStdin) .empty
  let out := Host.run { tree } around words input.toList
  writeFiles tree out.machine.tree
  if out.ending.printsText then IO.println CommandLine.usage
  else if out.ending.code = 2 then IO.eprintln CommandLine.usage
  if let some text := out.ending.complaint? then IO.eprintln text
  return out.ending.code.toUInt32

end RLanguageHost.Main

def main (words : List String) : IO UInt32 :=
  RLanguageHost.Main.run words
