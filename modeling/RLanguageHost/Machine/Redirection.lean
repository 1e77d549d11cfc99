import RLanguageHost.Machine.Image
import RLanguageHost.Shell.Expansion

/-!
# Redirections

Opening what a command's streams are led to: files, other streams, documents, and connections to
ports of the machine.
-/

namespace RLanguageHost.Machine

open Shell (Redirection Opening)

/-- How a shell words that it cannot open a file. -/
def openingFault (dialect : Shell.Dialect) (creating : Bool) (target : String) : Failure → String
  | .system fault =>
    match dialect with
    | .bash => target ++ ": " ++ fault.description
    | .posix =>
      let why :=
        if fault = .noEntry || fault = .notDirectory then
          if creating then "Directory nonexistent" else "No such file"
        else fault.description
      "cannot " ++ (if creating then "create " else "open ") ++ target ++ ": " ++ why
  | e => "cannot open " ++ target ++ ": " ++ e.message

/-- The port that a path of the form `/dev/tcp/host/port` names. -/
def portOf? (target : String) : Option Nat :=
  match target.splitOn "/" with
  | ["", "dev", "tcp", host, port] =>
    if host = "127.0.0.1" || host = "localhost" then port.toNat? else none
  | _ => none

/-- Connects to a port that the host listens on. -/
def connect (m : Machine) (port : Nat) : Option (Handle × Machine) :=
  if (m.ports.lookup port).isNone then none
  else
    let (toHost, m) := m.makePipe
    let (fromHost, m) := m.makePipe
    some (.connection fromHost toHost,
      { m with
        host := .connection toHost fromHost :: m.host
        ports := m.ports.map fun q =>
          if q.1 = port then (port, q.2 ++ [(toHost, fromHost)]) else q })

/-- Why a stream cannot be led elsewhere. -/
inductive RedirectionFault where
  /-- The target cannot be expanded. -/
  | target (stop : Shell.Stop)
  /-- The target cannot be opened. -/
  | opening (text : String)
  /-- Nobody listens on the port of the target. -/
  | refused (target : String)
  deriving Repr, Inhabited

/-- Opens the target of a redirection; none closes the stream. -/
def openTarget (m : Machine) (p : Proc) (s : Shell.State) (opening : Opening) (target : String) :
    Except RedirectionFault (Option Handle × Machine) :=
  let creating := opening ≠ .input
  let fault (e : Failure) : RedirectionFault := .opening (openingFault s.dialect creating target e)
  let opened (r : Except Failure (Handle × Machine)) :
      Except RedirectionFault (Option Handle × Machine) :=
    match r with
    | .ok (h, m) => .ok (some h, m)
    | .error e => .error (fault e)
  let content (text : String) : Except RedirectionFault (Option Handle × Machine) :=
    let (pipe, m) := m.makePipe
    let bytes := Shell.rawOf text
    .ok (some (.source pipe),
      { m with pipes := m.pipes.map fun q => if q.1 = pipe then (pipe, q.2.push bytes) else q })
  match opening with
  | .sameAs =>
    if target = "-" then .ok (none, m)
    else
      match target.toNat?.bind (p.streams.lookup ·) with
      | some h => .ok (some h, m)
      | none => .error (.opening (target ++ ": Bad file descriptor"))
  | .document => content target
  | .line => content (target ++ "\n")
  | _ =>
    if let some device := deviceAt? target then .ok (some device, m)
    else
      match streamNamed? target, portOf? target, s.dialect with
      | some n, _, _ =>
        match p.streams.lookup n with
        | some h => .ok (some h, m)
        | none => .error (fault (.system .noEntry))
      | none, some port, .bash =>
        match m.connect port with
        | some (h, m) => .ok (some h, m)
        | none => .error (.refused target)
      | _, _, _ =>
        let exists_ := m.tree.isFile (FileTree.path p.directory) ⟨Shell.rawOf target⟩
        match opening with
        | .input => opened (openForReading m p target)
        | .output =>
          if s.options.keepsFiles && exists_ then
            .error (.opening (s.dialect.choose ("cannot create " ++ target ++ ": File exists")
              (target ++ ": cannot overwrite existing file")))
          else opened (openForWriting m p.directory target true false)
        | .appending => opened (openForWriting m p.directory target false true)
        | _ => opened (openForWriting m p.directory target false false)

/-- The text of a word as it stands in a script, as far as messages need it. -/
def shownWord (w : Shell.Word) : String :=
  w.foldl (fun acc part =>
    match part with
    | .text s _ => acc ++ s
    | .parameter p _ => acc ++ "$" ++ p.name
    | _ => acc) ""

/-- The target of a redirection. The larger shell takes a target apart like other words, and wants
one field. -/
def targetOf (files : Shell.Field → List String) (s : Shell.State) (r : Redirection) :
    Except RedirectionFault (String × Shell.State) :=
  let textually := (Shell.Expansion.text s r.target).mapError .target
  match s.dialect, r.opening with
  | .posix, _ | _, .document | _, .line => textually
  | .bash, _ =>
    match Shell.Expansion.allFields s [r.target] with
    | .error stop => .error (.target stop)
    | .ok (fields, s) =>
      match fields.flatMap files with
      | [one] => .ok (one, s)
      | _ => .error (.opening (shownWord r.target ++ ": ambiguous redirect"))

/-- Leads streams of a process elsewhere, in order. The result is the process with its new streams,
and where the streams led before. -/
def redirect (m : Machine) (p : Proc) (files : Shell.Field → List String) (s : Shell.State) :
    List Redirection →
      Except RedirectionFault (Machine × Proc × Shell.State × List (Nat × Option Handle))
  | [] => .ok (m, p, s, [])
  | r :: rest => do
    let (target, s) ← targetOf files s r
    let (h, m) ← openTarget m p s r.opening target
    let before := (r.stream, p.streams.lookup r.stream)
    let (m, p, s, saved) ← redirect m (p.setStream r.stream h) files s rest
    return (m, p, s, saved ++ [before])

def Proc.leadBack (p : Proc) (saved : List (Nat × Option Handle)) : Proc :=
  saved.foldl (fun p (n, h) => p.setStream n h) p

end RLanguageHost.Machine
