import RLanguageHost.Machine.Builtin.Basic

/-!
# Commands on directories

The commands that change the directory in which a shell works, and those that keep directories to go
back to.
-/

namespace RLanguageHost.Machine.Actor

/-- The shell works in another directory from now on. The small shell hands both directories on to
the commands that it starts. -/
def moveTo (a : Actor) (place : Place) : Actor :=
  let before := a.here
  let now := pathOf place
  let publish (s : Shell.State) (name value : String) : Shell.State :=
    let s := s.assign name value
    match s.dialect with
    | .posix =>
      let v := s.bindingOrNew name
      s.bind { v with attributes := { v.attributes with exported := true } }
    | .bash => s
  { a with
    p := { a.p with directory := place }
    s := publish (publish a.s "OLDPWD" before) "PWD" now }

def directoryAt (a : Actor) (path : String) : Except String Place :=
  match a.locate path with
  | .ok (place, .directory) => .ok place
  | .ok _ => .error SystemFault.notDirectory.description
  | .error e => .error (describe e)

/-- A directory of the search path for directories in which a path leads to a directory. -/
def searchDirectory? (a : Actor) (path : String) : Option (Place × Bool) :=
  let isDirect := path.startsWith "/" || path = "." || path = ".." || path.startsWith "./"
    || path.startsWith "../"
  if isDirect then none
  else
    match a.s.value? "CDPATH" with
    | none => none
    | some all =>
      (all.splitOn ":").findSome? fun d =>
        match a.directoryAt (if d = "" then path else d ++ "/" ++ path) with
        | .ok place => some (place, d ≠ "" && d ≠ ".")
        | .error _ => none

/-- `cd`. -/
def changeDirectory (a : Actor) (line : Nat) (arguments : List String) : Actor :=
  a.withFlags line "cd" (a.choose "LP" "LPe@") "" arguments fun _ operands =>
    let fault (text : String) : Actor := a.complain line ("cd: " ++ text) 1
    let go (target : String) (shows : Bool) : Actor :=
      if target = "" then a.done 0
      else
        match a.searchDirectory? target with
        | some (place, apart) =>
          let a := a.moveTo place
          if apart || shows then a.print (a.here ++ "\n") else a.done 0
        | none =>
          match a.directoryAt target, a.s.dialect with
          | .ok place, _ =>
            let a := a.moveTo place
            if shows then a.print (a.here ++ "\n") else a.done 0
          | .error _, .posix => a.complain line ("cd: can\x27t cd to " ++ target) 2
          | .error why, .bash => fault (target ++ ": " ++ why)
    match operands, a.s.dialect with
    | _ :: _ :: _, .bash => fault "too many arguments"
    | [], .bash =>
      match a.s.value? "HOME" with
      | some home => go home false
      | none => fault "HOME not set"
    | [], .posix => go ((a.s.value? "HOME").getD "") false
    | "-" :: _, dialect =>
      match a.s.value? "OLDPWD", dialect with
      | some before, _ => go before true
      | none, .posix => a.print (a.here ++ "\n")
      | none, .bash => fault "OLDPWD not set"
    | target :: _, _ => go target false

/-- `pwd`. -/
def showDirectory (a : Actor) (line : Nat) (arguments : List String) : Actor :=
  a.withFlags line "pwd" "LP" "" arguments fun _ _ => a.print (a.here ++ "\n")

/-- A directory with a tilde in the place of the home directory. -/
def abbreviated (a : Actor) (path : String) : String :=
  match a.s.value? "HOME" with
  | some home =>
    if home ≠ "" && home ≠ "/" && (path = home || path.startsWith (home ++ "/")) then
      "~" ++ (path.drop home.length).toString
    else path
  | none => path

/-- The directory of the shell and those to go back to. -/
def stack (a : Actor) : List String :=
  a.here :: a.s.directories

def stackLine (a : Actor) : String :=
  " ".intercalate (a.stack.map a.abbreviated) ++ "\n"

/-- The index that an argument with a sign means among so many. -/
def indexOf? (size : Nat) (argument : String) : Option Nat :=
  match argument.toList with
  | '+' :: digits => ((String.ofList digits).toNat?).filter (· < size)
  | '-' :: digits => (((String.ofList digits).toNat?).filter (· < size)).map (size - 1 - ·)
  | _ => none

/-- The first directory becomes that of the shell and the others are kept. -/
def adopt (a : Actor) (line : Nat) (name : String) : List String → Actor
  | [] => a.done 0
  | top :: rest =>
    match a.directoryAt top with
    | .ok place =>
      let a := a.moveTo place
      let a := { a with s := { a.s with directories := rest } }
      a.print a.stackLine
    | .error why => a.complain line (name ++ ": " ++ top ++ ": " ++ why) 1

/-- `pushd`. -/
def pushDirectory (a : Actor) (line : Nat) (arguments : List String) : Actor :=
  match arguments.filter fun x => x ≠ "-n" && x ≠ "--" with
  | [] =>
    match a.s.directories with
    | [] => a.complain line "pushd: no other directory" 1
    | top :: rest => a.adopt line "pushd" (top :: a.here :: rest)
  | target :: _ =>
    let all := a.stack
    let isIndex := target.startsWith "+" || (target.startsWith "-" && target.length ≠ 1)
    match indexOf? all.length target, isIndex with
    | some i, true => a.adopt line "pushd" (all.drop i ++ all.take i)
    | none, true =>
      a.complain line ("pushd: " ++ target ++ ": directory stack index out of range") 1
    | _, false =>
      let target := if target = "-" then (a.s.value? "OLDPWD").getD "" else target
      a.adopt line "pushd" (target :: all)

/-- `popd`. -/
def popDirectory (a : Actor) (line : Nat) (arguments : List String) : Actor :=
  if a.s.directories.isEmpty then a.complain line "popd: directory stack empty" 1
  else
    match arguments.filter fun x => x ≠ "-n" && x ≠ "--" with
    | [] => a.adopt line "popd" a.s.directories
    | which :: _ =>
      match indexOf? a.stack.length which with
      | some 0 => a.adopt line "popd" a.s.directories
      | some (i + 1) =>
        let a := { a with s := { a.s with directories := a.s.directories.eraseIdx i } }
        a.print a.stackLine
      | none => a.complain line ("popd: " ++ which ++ ": directory stack index out of range") 1

/-- `dirs`. -/
def showDirectories (a : Actor) (line : Nat) (arguments : List String) : Actor :=
  a.withFlags line "dirs" "clpv" "" arguments fun flags _ =>
    let shown := if flags.has 'l' then a.stack else a.stack.map a.abbreviated
    if flags.has 'c' then { a with s := { a.s with directories := [] } }.done 0
    else if flags.has 'v' then
      a.print (String.join (shown.zipIdx.map fun (d, i) =>
        (if i < 10 then " " else "") ++ toString i ++ "  " ++ d ++ "\n"))
    else if flags.has 'p' then a.print (String.join (shown.map (· ++ "\n")))
    else a.print (" ".intercalate shown ++ "\n")

end RLanguageHost.Machine.Actor
