import RLanguageHost.Machine.Builtin.Directory
import RLanguageHost.Machine.Builtin.Flow
import RLanguageHost.Machine.Builtin.Inquiry
import RLanguageHost.Machine.Builtin.Jobs
import RLanguageHost.Machine.Builtin.Naming
import RLanguageHost.Machine.Builtin.Reading

/-!
# The commands that a shell carries out itself

Which command a name stands for. `exec`, `command` and `builtin` are not among them: they run what
their arguments name. The commands are there because the scripts that stand in for servers are run
by a shell, which has them built in; the host calls none of them.
-/

namespace RLanguageHost.Machine.Actor

/-- What a command is called with: its texts, arrays that it declares, and the files that patterns
in the elements of such arrays stand for. -/
structure Invoked where
  line : Nat
  name : String
  arguments : List String
  arrays : List Shell.Assignment := []
  files : Shell.Field → List String

/-- Carries out a command other than `exec`, `command` and `builtin`. -/
def builtin (a : Actor) (c : Invoked) : Actor :=
  let line := c.line
  let name := c.name
  let arguments := c.arguments
  match name with
  | "false" => a.done 1
  | "exit" => a.exit line arguments
  | "return" => a.leaveFunctionWith line arguments
  | "break" | "continue" => a.breakLoop line name arguments
  | "shift" => a.shift line arguments
  | "eval" => a.evaluate line arguments
  | "." | "source" => a.readFile line name arguments
  | "set" => a.set line arguments
  | "shopt" => a.shopt line arguments
  | "export" | "readonly" => a.markNames line name arguments c.arrays c.files
  | "local" =>
    match a.s.dialect with
    | .posix => a.makeLocal line arguments
    | .bash => a.declareNames line name arguments c.arrays c.files
  | "declare" | "typeset" => a.declareNames line name arguments c.arrays c.files
  | "unset" => a.unset line arguments
  | "let" => a.evaluateAll line arguments
  | "alias" => a.nameCommands line arguments
  | "unalias" => a.unnameCommands line arguments
  | "getopts" => a.nextOption line arguments
  | "read" => a.readLine line arguments
  | "mapfile" | "readarray" => a.readLines line name arguments
  | "trap" => a.trap line arguments
  | "kill" => a.kill line arguments
  | "wait" => a.wait line arguments
  | "jobs" => a.listJobs
  | "bg" | "fg" => a.resumeJob line name
  | "umask" => a.umask line arguments
  | "ulimit" => a.limits arguments
  | "times" => a.times
  | "cd" | "chdir" => a.changeDirectory line arguments
  | "pwd" => a.showDirectory line arguments
  | "pushd" => a.pushDirectory line arguments
  | "popd" => a.popDirectory line arguments
  | "dirs" => a.showDirectories line arguments
  | "echo" => a.print (Shell.Format.echo (.ofDialect a.s.dialect) arguments)
  | "printf" => a.formatArguments line arguments
  | "test" | "[" => a.test line name arguments
  | "type" => a.explain line arguments
  | "hash" => a.hashNames line arguments
  | "logout" => a.complain line "logout: not login shell: use \x60exit\x27" 1
  | "caller" => a.done 1
  | _ => a.done 0

end RLanguageHost.Machine.Actor
