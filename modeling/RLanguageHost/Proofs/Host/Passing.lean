import RLanguageHost.Host.Service
import RLanguageHost.Proofs.Host.Accounts
import RLanguageHost.Proofs.Text.Lossy

/-!
# Lines that a host passes over

A line that holds no event can be put in wherever a line begins, and no host will do anything else
for it, if the line is text. A line that is no text is another matter: it ends the events of every
host that comes to read it.

That nothing else is done is said of two hosts, one of which has the line in its input. Whatever
turns the one takes, the other takes the same ones but for the turn in which the line is read, and
then they stand at the same place and have heard the same events.
-/

namespace RLanguageHost.Host

open Lines (newline EndsLine)

/-- A host that has come to read the line reads no further. -/
def EndsReading (line : Bytes) : Prop :=
  Host.readLine line = .event .deactivate ∨ ∃ failure, Host.readLine line = .unreadable failure

/-- No event can be read from the line, text or not. -/
def HoldsNoEvent (line : Bytes) : Prop :=
  ∀ text, Utf8.decode? line = some text → ∀ event, HostEvent.ofText text ≠ .ok event

theorem readLine_of_text {line : Bytes} {text : List Char} (h : Utf8.decode? line = some text)
    (noEvent : HoldsNoEvent line) : Host.readLine line = .ignored := by
  rw [Host.readLine, Utf8.fault?_of_decode? h, Utf8.wellFormedPrefix_of_decode? h]
  dsimp only
  split
  · rfl
  · split
    · next event read => exact absurd read (noEvent text h event)
    · rfl

theorem exists_unreadable {line : Bytes} (h : Utf8.decode? line = none) :
    ∃ failure, Host.readLine line = .unreadable failure := by
  obtain ⟨fault, found⟩ := Utf8.exists_fault?_of_decode?_eq_none h
  rw [Host.readLine, found]
  exact ⟨_, rfl⟩

/-- The turns without the one in which the line with this number is read. -/
def Turn.withoutRead : Nat → List Turn → List Turn
  | _, [] => []
  | 0, .read :: turns => turns
  | n + 1, .read :: turns => .read :: withoutRead n turns
  | n, turn :: turns => turn :: withoutRead n turns

theorem Turn.withoutRead_cons {t : Turn} (other : t ≠ .read) (n : Nat) (turns : List Turn) :
    withoutRead n (t :: turns) = t :: withoutRead n turns := by
  cases t with
  | read => exact absurd rfl other
  | _ => cases n <;> rfl

/-- Any turns can be taken by a host that has one line more to read. -/
theorem Turn.exists_withoutRead (n : Nat) (turns : List Turn) :
    ∃ longer, withoutRead n longer = turns := by
  induction turns generalizing n with
  | nil => exact ⟨[], by cases n <;> rfl⟩
  | cons t turns ih =>
      by_cases reads : t = .read
      · subst reads
        cases n with
        | zero => exact ⟨.read :: .read :: turns, rfl⟩
        | succ n =>
            obtain ⟨longer, rfl⟩ := ih n
            exact ⟨.read :: longer, rfl⟩
      · obtain ⟨longer, rfl⟩ := ih n
        exact ⟨t :: longer, withoutRead_cons reads n longer⟩

namespace Course

/-- The same host with other lines to read. -/
def withInput (c : Course) (input : List Bytes) : Course :=
  { c with input }

/-- The hosts stand at the same place, whatever they have still to read. -/
def SameButInput (c d : Course) : Prop :=
  c.withInput d.input = d

/-- What a line has done: the workspace after its event, and the job that a handler gets. -/
def hears (w : Workspace) (line : Bytes) : Option (Workspace × Option Lifecycle.State.Job) :=
  match Host.readLine line with
  | .event .deactivate | .ignored | .unreadable _ => none
  | .event event => some (dispatch w event)

/-- What a host hears in a turn. -/
def heard (c : Course) : Turn → Option (Workspace × Option Lifecycle.State.Job)
  | .read =>
    match c.phase, c.input with
    | .reading, line :: _ => hears c.state.workspace line
    | _, _ => none
  | _ => none

/-- What a host hears, in its order. -/
def transcript (c : Course) : List Turn → List (Workspace × Option Lifecycle.State.Job)
  | [] => []
  | turn :: turns => (c.heard turn).toList ++ (c.turn turn).transcript turns

variable {c d : Course}

section

variable {input : List Bytes}

theorem reading_withInput (next : Course) :
    (c.withInput input).reading (next.withInput input) = (c.reading next).withInput input := by
  by_cases reads : c.phase = .reading
  · rw [reading_of_phase reads, reading_of_phase (c := c.withInput input) reads]
  · rw [reading_of_ne reads, reading_of_ne (c := c.withInput input) reads]

theorem leaving_withInput {next other : Except Error Unit → Course}
    (same : ∀ result, other result = (next result).withInput input) :
    (c.withInput input).leaving other = (c.leaving next).withInput input := by
  by_cases leaves : ∃ result, c.phase = .leaving result
  · obtain ⟨result, phase⟩ := leaves
    rw [leaving_of_phase phase, leaving_of_phase (c := c.withInput input) phase, same]
  · have elsewhere := not_exists.mp leaves
    rw [leaving_of_ne elsewhere, leaving_of_ne (c := c.withInput input) elsewhere]

theorem stopping_withInput {next other : Except Error Unit → List Nat → Course}
    (same : ∀ result sessions, other result sessions = (next result sessions).withInput input) :
    (c.withInput input).stopping other = (c.stopping next).withInput input := by
  by_cases waits : ∃ result sessions, c.phase = .stopping result sessions
  · obtain ⟨result, sessions, phase⟩ := waits
    rw [stopping_of_phase phase, stopping_of_phase (c := c.withInput input) phase, same]
  · have elsewhere := fun result => not_exists.mp (not_exists.mp waits result)
    rw [stopping_of_ne elsewhere, stopping_of_ne (c := c.withInput input) elsewhere]

/-- Only when it reads does a host look at what there is to read. -/
theorem turn_withInput {t : Turn} (other : t ≠ .read) :
    (c.withInput input).turn t = (c.turn t).withInput input := by
  cases t with
  | read => exact absurd rfl other
  | startEnded | stopEnded | crashed => rfl
  | inputFailed failure =>
      rw [turn, turn]
      exact reading_withInput (c.leave (.error (.input failure)))
  | cancelled =>
      rw [turn, turn]
      exact reading_withInput (c.leave (.ok ()))
  | begun index =>
      rw [turn, turn]
      dsimp only [withInput]
      cases c.jobs[index]? <;> rfl
  | givenUp | dropped =>
      rw [turn, turn]
      exact leaving_withInput fun _ => rfl
  | emptied =>
      rw [turn, turn]
      refine leaving_withInput fun result => ?_
      rw [apply_ite (withInput · input)]
      rfl
  | sessionStopped | returned =>
      rw [turn, turn]
      refine stopping_withInput fun result sessions => ?_
      rw [apply_ite (withInput · input)]
      rfl

theorem readLine_withInput (line : Bytes) :
    (c.withInput input).readLine line = (c.readLine line).withInput input := by
  rw [readLine, readLine]
  split <;> rfl

theorem input_turn {t : Turn} (other : t ≠ .read) : (c.turn t).input = c.input := by
  have same : c.turn t = (c.turn t).withInput c.input := turn_withInput (c := c) other
  rw [same]
  rfl

theorem phase_turn_of_ne (elsewhere : c.phase ≠ .reading) (t : Turn) :
    (c.turn t).phase ≠ .reading := by
  cases t with
  | read | inputFailed | cancelled =>
      rw [turn, reading_of_ne elsewhere]
      exact elsewhere
  | startEnded | stopEnded | crashed => exact elsewhere
  | begun =>
      rw [turn]
      split <;> exact elsewhere
  | givenUp | dropped =>
      rw [turn, leaving]
      split <;> exact elsewhere
  | emptied =>
      rw [turn, leaving]
      split
      · split
        · exact Phase.noConfusion
        · exact elsewhere
      · exact elsewhere
  | sessionStopped | returned =>
      rw [turn, stopping]
      split
      · split
        · exact Phase.noConfusion
        · exact elsewhere
      · exact elsewhere

end

/-! ## Hosts that read no more -/

theorem turn_read_of_ne (elsewhere : c.phase ≠ .reading) : c.turn .read = c := by
  rw [turn, reading_of_ne elsewhere]

theorem heard_of_ne_read {t : Turn} (other : t ≠ .read) : c.heard t = none := by
  cases t with
  | read => exact absurd rfl other
  | _ => rfl

theorem heard_of_ne (elsewhere : c.phase ≠ .reading) (t : Turn) : c.heard t = none := by
  by_cases reads : t = .read
  · subst reads
    rw [heard]
    split
    · next phase _ => exact absurd phase elsewhere
    · rfl
  · exact heard_of_ne_read reads

theorem transcript_of_ne (elsewhere : c.phase ≠ .reading) (turns : List Turn) :
    c.transcript turns = [] := by
  induction turns generalizing c with
  | nil => rfl
  | cons t turns ih =>
      rw [transcript, heard_of_ne elsewhere, ih (phase_turn_of_ne elsewhere t)]
      rfl

/-- To a host that reads no more, its input is nothing. -/
theorem run_withInput (elsewhere : c.phase ≠ .reading) (input : List Bytes) (turns : List Turn) :
    (c.withInput input).run turns = (c.run turns).withInput input := by
  induction turns generalizing c with
  | nil => rfl
  | cons t turns ih =>
      have step : (c.withInput input).turn t = (c.turn t).withInput input := by
        by_cases reads : t = .read
        · rw [reads, turn_read_of_ne elsewhere, turn_read_of_ne (c := c.withInput input) elsewhere]
        · exact turn_withInput reads
      rw [run_cons, run_cons, step, ih (phase_turn_of_ne elsewhere t)]

theorem run_withoutRead (elsewhere : c.phase ≠ .reading) (n : Nat) (turns : List Turn) :
    c.run (Turn.withoutRead n turns) = c.run turns := by
  induction turns generalizing c n with
  | nil => cases n <;> rfl
  | cons t turns ih =>
      by_cases reads : t = .read
      · subst reads
        rw [run_cons, turn_read_of_ne elsewhere]
        cases n with
        | zero => rfl
        | succ n =>
            rw [Turn.withoutRead, run_cons, turn_read_of_ne elsewhere]
            exact ih elsewhere n
      · rw [Turn.withoutRead_cons reads, run_cons, run_cons]
        exact ih (phase_turn_of_ne elsewhere t) n

/-! ## Two hosts -/

/-- Two hosts that have taken these turns stand at the same place and have heard the same. -/
structure GoesLike (c : Course) (turns : List Turn) (d : Course) (others : List Turn) : Prop where
  course : (c.run turns).SameButInput (d.run others)
  transcript : c.transcript turns = d.transcript others

theorem goesLike_of_ne (elsewhere : c.phase ≠ .reading) (input : List Bytes) (n : Nat)
    (turns : List Turn) :
    c.GoesLike turns (c.withInput input) (Turn.withoutRead n turns) where
  course := by
    rw [SameButInput, run_withInput elsewhere, run_withoutRead elsewhere]
    rfl
  transcript := by
    rw [transcript_of_ne elsewhere]
    exact (transcript_of_ne (c := c.withInput input) elsewhere _).symm

theorem GoesLike.cons {t u : Turn} {turns others : List Turn} (heard : c.heard t = d.heard u)
    (goesOn : (c.turn t).GoesLike turns (d.turn u) others) :
    c.GoesLike (t :: turns) d (u :: others) where
  course := goesOn.course
  transcript := by rw [Course.transcript, Course.transcript, heard, goesOn.transcript]

theorem turn_read_of_line (phase : c.phase = .reading) {line : Bytes} {rest : List Bytes}
    (input : c.input = line :: rest) : c.turn .read = (c.readLine line).withInput rest := by
  rw [turn_read_cons phase input]
  exact readLine_withInput line

theorem heard_read_of_line (phase : c.phase = .reading) {line : Bytes} {rest : List Bytes}
    (input : c.input = line :: rest) : c.heard .read = hears c.state.workspace line := by
  rw [heard, phase, input]

theorem phase_readLine_of_endsReading {line : Bytes} (ends : EndsReading line) :
    (c.readLine line).phase ≠ .reading := by
  rcases ends with deactivates | ⟨failure, unreadable⟩
  · rw [readLine, deactivates]
    exact Phase.noConfusion
  · rw [readLine, unreadable]
    exact Phase.noConfusion

/-- A host goes on as if the line were not in its input, wherever it stands. The line comes after
those that the host has still to read, and these are as many as the reading turns that are left
alone. -/
theorem goesLike {line : Bytes} {lines rest : List Bytes} (input : c.input = lines ++ line :: rest)
    (harmless : Host.readLine line = .ignored ∨ ∃ earlier ∈ lines, EndsReading earlier)
    (turns : List Turn) :
    c.GoesLike turns (c.withInput (lines ++ rest)) (Turn.withoutRead lines.length turns) := by
  induction turns generalizing c lines with
  | nil => exact ⟨by cases lines <;> rfl, by cases lines <;> rfl⟩
  | cons t turns ih =>
      by_cases phase : c.phase = .reading
      case neg => exact goesLike_of_ne phase _ _ _
      by_cases reads : t = .read
      case neg =>
        rw [Turn.withoutRead_cons reads]
        refine .cons ((heard_of_ne_read reads).trans (heard_of_ne_read reads).symm) ?_
        rw [turn_withInput reads]
        exact ih ((input_turn reads).trans input) harmless
      subst reads
      cases lines with
      | nil =>
          have ignored : Host.readLine line = .ignored := harmless.resolve_right (by simp)
          have passed : c.turn .read = c.withInput rest := by
            rw [turn_read_of_line phase input, readLine, ignored]
          have unheard : c.heard .read = none := by
            rw [heard_read_of_line phase input, hears, ignored]
          exact ⟨by rw [run_cons, passed]; rfl, by rw [transcript, unheard, passed]; rfl⟩
      | cons next lines =>
          have first : (c.withInput (next :: lines ++ rest)).input = next :: (lines ++ rest) := rfl
          have read : (c.withInput (next :: lines ++ rest)).turn .read =
              (c.readLine next).withInput (lines ++ rest) := by
            rw [turn_read_of_line (c := c.withInput (next :: lines ++ rest)) phase first,
              readLine_withInput]
            rfl
          have hearsSame := (heard_read_of_line phase input).trans
            (heard_read_of_line (c := c.withInput (next :: lines ++ rest)) phase first).symm
          refine .cons hearsSame ?_
          rw [turn_read_of_line phase input, read]
          by_cases ends : EndsReading next
          · have elsewhere := phase_readLine_of_endsReading (c := c) ends
            exact goesLike_of_ne (c := (c.readLine next).withInput (lines ++ line :: rest))
              elsewhere (lines ++ rest) lines.length turns
          · refine ih (c := (c.readLine next).withInput _) rfl (harmless.imp_right ?_)
            rintro ⟨earlier, member, here⟩
            rcases List.mem_cons.mp member with rfl | member
            · exact absurd here ends
            · exact ⟨earlier, member, here⟩

/-- A host reads one line after another, as long as none ends its reading. -/
theorem run_reads {lines rest : List Bytes} (phase : c.phase = .reading)
    (input : c.input = lines ++ rest) (goesOn : ∀ line ∈ lines, ¬ EndsReading line) :
    (c.run (.replicate lines.length .read)).phase = .reading ∧
      (c.run (.replicate lines.length .read)).input = rest := by
  induction lines generalizing c with
  | nil => exact ⟨phase, input⟩
  | cons line lines ih =>
      have read := turn_read_of_line phase input
      have still : (c.readLine line).phase = .reading := by
        have harmless := goesOn line List.mem_cons_self
        rw [readLine]
        split
        · next failure unreadable => exact absurd (.inr ⟨failure, unreadable⟩) harmless
        · exact phase
        · next deactivates => exact absurd (.inl deactivates) harmless
        · exact phase
      rw [List.length_cons, List.replicate_succ, run_cons, read]
      exact ih still rfl fun other member => goesOn other (.tail line member)

end Course

theorem Turn.withoutRead_replicate (n : Nat) :
    withoutRead n (.replicate (n + 1) .read) = .replicate n .read := by
  induction n with
  | zero => rfl
  | succ n ih => exact congrArg (.read :: ·) ih

/-- A line that holds no event can be put where a line begins, and every host goes on as if it were
not there, if the line is text or if an earlier line ends the reading. Of any other line a host
takes notice. The turns that are compared are all turns of the host without the line. -/
theorem Course.line_makes_no_difference_iff (s : Lifecycle.State) {before line : Bytes}
    (after : Bytes) (boundary : EndsLine before) (whole : newline ∉ line)
    (noEvent : HoldsNoEvent (line ++ [newline])) :
    ((∀ turns,
      (start s (before ++ (line ++ newline :: after))).GoesLike turns
        (start s (before ++ after)) (Turn.withoutRead (Lines.all before).length turns)) ↔
      (Utf8.decode? (line ++ [newline])).isSome ∨
        ∃ earlier ∈ Lines.all before, EndsReading earlier) ∧
      ∀ turns, ∃ longer, Turn.withoutRead (Lines.all before).length longer = turns := by
  have input : (start s (before ++ (line ++ newline :: after))).input =
      Lines.all before ++ (line ++ [newline]) :: Lines.all after := by
    rw [start, boundary.all_append, Lines.all_line_append whole]
  have without : start s (before ++ after) =
      (start s (before ++ (line ++ newline :: after))).withInput
        (Lines.all before ++ Lines.all after) := by
    rw [start, boundary.all_append]
    rfl
  refine ⟨?_, Turn.exists_withoutRead _⟩
  rw [without]
  constructor
  · intro same
    by_cases reached : ∃ earlier ∈ Lines.all before, EndsReading earlier
    · exact .inr reached
    · refine .inl (Option.isSome_iff_ne_none.mpr fun noText => ?_)
      obtain ⟨failure, unreadable⟩ := exists_unreadable noText
      have goesOn : ∀ earlier ∈ Lines.all before, ¬ EndsReading earlier :=
        fun earlier member ends => reached ⟨earlier, member, ends⟩
      -- Both hosts read all lines before this one, and the one that has it reads it too.
      obtain ⟨reading, left⟩ := run_reads rfl input goesOn
      obtain ⟨still, -⟩ := run_reads (c := (start s _).withInput _) rfl rfl goesOn
      have stopped := phase_readLine_of_endsReading
        (c := (start s (before ++ (line ++ newline :: after))).run
          (.replicate (Lines.all before).length .read)) (.inr ⟨failure, unreadable⟩)
      have both := (same (.replicate ((Lines.all before).length + 1) .read)).course
      rw [Turn.withoutRead_replicate, List.replicate_succ', run_append] at both
      have phases := congrArg (fun c : Course => c.phase) both
      refine stopped ?_
      rw [← still, ← phases, run_cons, turn_read_of_line reading left]
      rfl
  · intro harmless turns
    refine goesLike input (harmless.imp_left fun text => ?_) turns
    obtain ⟨text, decoded⟩ := Option.isSome_iff_exists.mp text
    exact readLine_of_text decoded noEvent

theorem holdsNoEvent_encode {text : List Char} (unread : (HostEvent.ofText text).toOption = none) :
    HoldsNoEvent (Utf8.encode text) := by
  intro other decoded event read
  cases (Utf8.decode?_encode text).symm.trans decoded
  rw [read] at unread
  cases unread

theorem spelled_word : bytesOf "oops" ++ [newline] = Utf8.encode "oops\n".toList := by
  decide +kernel

theorem holdsNoEvent_word : HoldsNoEvent (bytesOf "oops" ++ [newline]) := by
  rw [spelled_word]
  exact holdsNoEvent_encode (by decide +kernel)

theorem isSome_decode?_word : (Utf8.decode? (bytesOf "oops" ++ [newline])).isSome := by
  rw [spelled_word, Utf8.decode?_encode]
  rfl

/-- A word after an empty line is passed over. -/
theorem Course.line_makes_no_difference_word :
    EndsLine [newline] ∧ newline ∉ bytesOf "oops" ∧ HoldsNoEvent (bytesOf "oops" ++ [newline]) ∧
      ∀ turns, (start bufferHost ([newline] ++ (bytesOf "oops" ++ newline :: closingLine))).GoesLike
        turns (start bufferHost ([newline] ++ closingLine)) (Turn.withoutRead 1 turns) := by
  have boundary : EndsLine [newline] := .inr rfl
  have whole : newline ∉ bytesOf "oops" := by decide +kernel
  obtain ⟨harmless, -⟩ :=
    line_makes_no_difference_iff bufferHost closingLine boundary whole holdsNoEvent_word
  exact ⟨boundary, whole, holdsNoEvent_word, harmless.mpr (.inl isSome_decode?_word)⟩

/-- A host that is told that its buffer was closed hears it and returns without an error. If a line
with the byte FF comes before, it hears nothing and returns with an error. -/
theorem Course.line_that_is_no_text :
    let line : Bytes := [0xFF, newline]
    let turns := [.read, .read, .dropped 0, .dropped 0, .emptied, .returned]
    HoldsNoEvent line ∧
      ((start bufferHost (line ++ closingLine)).run turns).phase =
        .returned (.error (.input (.malformed 0 (some 1)))) ∧
      (start bufferHost (line ++ closingLine)).transcript turns = [] ∧
      ((start bufferHost closingLine).run turns).phase = .returned (.ok ()) ∧
      (start bufferHost closingLine).transcript turns =
        [({}, some (.closeDocument (Lifecycle.State.buffer "a")))] := by
  intro line turns
  have unreadable : Host.readLine line = .unreadable (.malformed 0 (some 1)) := by decide +kernel
  have parsed : Host.readLine closingLine = .event (.closed (Lifecycle.State.buffer "a").uri) := by
    decide +kernel
  have longer : (start bufferHost (line ++ closingLine)).input = [line, closingLine] := by
    decide +kernel
  have shorter : (start bufferHost closingLine).input = [closingLine] := by decide +kernel
  have noEvent : HoldsNoEvent line := by
    have noText : Utf8.decode? line = none := by decide +kernel
    intro text decoded
    cases noText.symm.trans decoded
  have stops : (start bufferHost (line ++ closingLine)).turn .read =
      ((start bufferHost (line ++ closingLine)).withInput [closingLine]).leave
        (.error (.input (.malformed 0 (some 1)))) := by
    rw [turn_read_of_line rfl longer, readLine, unreadable]
    rfl
  have goesOn : (start bufferHost closingLine).turn .read =
      { start bufferHost closingLine with
        state := { bufferHost with workspace := {} }
        input := []
        jobs := [.openDocument (Lifecycle.State.buffer "a"),
          .closeDocument (Lifecycle.State.buffer "a")] } := by
    rw [turn_read_of_line rfl shorter, readLine, parsed]
    rfl
  refine ⟨noEvent, ?_, ?_, ?_, ?_⟩
  · rw [run_cons, stops]
    rfl
  · have unheard : (start bufferHost (line ++ closingLine)).heard .read = none := by
      rw [heard_read_of_line rfl longer, hears, unreadable]
    rw [transcript, stops, unheard, transcript_of_ne]
    · rfl
    · exact Phase.noConfusion
  · rw [run_cons, goesOn]
    rfl
  · have closes : (start bufferHost closingLine).heard .read =
        some ({}, some (.closeDocument (Lifecycle.State.buffer "a"))) := by
      rw [heard_read_of_line rfl shorter, hears, parsed]
      rfl
    rw [transcript, goesOn, closes]
    rfl

/-! ## Hosts with servers -/

namespace Service

variable {line : Bytes}

theorem readLines_withoutLine (ignored : Host.readLine line = .ignored) (m : Machine) (s : Service)
    (lines rest : List Bytes) :
    s.readLines m (lines ++ line :: rest) = s.readLines m (lines ++ rest) := by
  induction lines generalizing m s with
  | nil => rw [List.nil_append, List.nil_append, readLines, ignored]
  | cons next lines ih =>
      rw [List.cons_append, List.cons_append, readLines, readLines]
      split
      · rfl
      · exact ih m s
      · rfl
      · next event _ _ =>
        generalize s.heed m event = heeded
        exact ih heeded.1 heeded.2

/-- With servers as well, nothing comes of the line: neither the result nor what servers and files
have become. -/
theorem run_withoutLine (m : Machine) (s : Service) {before : Bytes} (after : Bytes)
    (boundary : EndsLine before) (whole : newline ∉ line)
    (noEvent : HoldsNoEvent (line ++ [newline]))
    (text : (Utf8.decode? (line ++ [newline])).isSome) :
    s.run m (before ++ (line ++ newline :: after)) = s.run m (before ++ after) := by
  obtain ⟨text, decoded⟩ := Option.isSome_iff_exists.mp text
  rw [run, run, boundary.all_append, Lines.all_line_append whole, boundary.all_append,
    readLines_withoutLine (readLine_of_text decoded noEvent)]

/-- A word after an empty line is passed over by a service as well. -/
theorem run_withoutLine_word :
    let s : Service :=
      { setup := { settings := {}, finder := fun _ => "R", around := { directory := ⟨[]⟩ } }
        state := Course.bufferHost }
    s.run {} ([newline] ++ (bytesOf "oops" ++ newline :: Course.closingLine)) =
      s.run {} ([newline] ++ Course.closingLine) := by
  intro s
  have whole : newline ∉ bytesOf "oops" := by decide +kernel
  exact run_withoutLine {} s Course.closingLine (.inr rfl) whole holdsNoEvent_word
    isSome_decode?_word

end Service

end RLanguageHost.Host
