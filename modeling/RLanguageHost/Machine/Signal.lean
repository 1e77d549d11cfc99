/-!
# Signals

Signals go by numbers. A signal that a process neither ignores nor handles ends it, apart from a few
that do nothing and a few that make it pause.
-/

namespace RLanguageHost.Machine

abbrev Signal := Nat

namespace Signal

/-- Asks a process to end. -/
def term : Signal := 15

/-- Asks a process to end, from a keyboard. -/
def interrupt : Signal := 2

/-- Asks a process to end, from a keyboard, and to leave an image behind. -/
def quit : Signal := 3

/-- Ends a process, whatever it does about signals. -/
def kill : Signal := 9

/-- Tells a process that nobody reads what it writes. -/
def pipe : Signal := 13

/-- Lets a process go on. -/
def resume : Signal := 18

def names : List (String × Signal) :=
  [("HUP", 1), ("INT", 2), ("QUIT", 3), ("ILL", 4), ("TRAP", 5), ("ABRT", 6), ("IOT", 6),
    ("BUS", 7), ("FPE", 8), ("KILL", 9), ("USR1", 10), ("SEGV", 11), ("USR2", 12), ("PIPE", 13),
    ("ALRM", 14), ("TERM", 15), ("STKFLT", 16), ("CHLD", 17), ("CONT", 18),
    ("STOP", 19), ("TSTP", 20), ("TTIN", 21), ("TTOU", 22), ("URG", 23), ("XCPU", 24), ("XFSZ", 25),
    ("VTALRM", 26), ("PROF", 27), ("WINCH", 28), ("IO", 29), ("POLL", 29), ("PWR", 30), ("SYS", 31),
    ("RTMIN", 34), ("RTMAX", 64)]

/-- The signal that a name or number means; zero means none. -/
def ofText? (s : String) : Option Signal :=
  match s.toNat? with
  | some n => if n ≤ 64 then some n else none
  | none =>
    names.lookup s.toUpper

/-- The description of a signal that ended a command. -/
def description (signal : Signal) : String :=
  (table.lookup signal).getD ("Unknown signal " ++ toString signal)
where
  /-- The descriptions. -/
  table : List (Signal × String) :=
    [(1, "Hangup"), (3, "Quit"), (4, "Illegal instruction"), (5, "Trace/breakpoint trap"),
      (6, "Aborted"), (7, "Bus error"), (8, "Floating point exception"), (9, "Killed"),
      (10, "User defined signal 1"), (11, "Segmentation fault"), (12, "User defined signal 2"),
      (14, "Alarm clock"), (15, "Terminated"), (16, "Stack fault"), (24, "CPU time limit exceeded"),
      (25, "File size limit exceeded"), (26, "Virtual timer expired"),
      (27, "Profiling timer expired"), (29, "I/O possible"), (30, "Power failure"),
      (31, "Bad system call")]

/-- What a signal does to a process that does nothing about it. -/
inductive Effect where
  | ends
  | nothing
  | pauses
  deriving Repr, DecidableEq

def effect (signal : Signal) : Effect :=
  if [17, 18, 23, 28].contains signal then .nothing
  else if [19, 20, 21, 22].contains signal then .pauses
  else .ends

/-- Whether a process can ignore or handle a signal. -/
def canBeHandled (signal : Signal) : Bool :=
  signal ≠ kill && signal ≠ 19

end Signal

end RLanguageHost.Machine
