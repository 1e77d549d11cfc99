import RLanguageHost.Proofs.Child.Running
import RLanguageHost.Proofs.Text.Sequences
import RLanguageHost.Text.Blank

/-!
# The lines of a standard error stream

A process writes bytes to its standard error stream, and its handler is to be given the lines, each
without its terminator: a newline, or a carriage return and a newline. The lines do not depend on
how the stream is cut into reads (`Lines.split_append`), and what goes on beside the reads does not
touch the stream (`Keeper.Frames`), so the handler gets every line once and in order.

But not every line comes out as it was written. A line loses all carriage returns at its end, also
those that are not part of its terminator (`Lines.text_eq`).
-/

namespace RLanguageHost

/-! ## Lines and their terminators -/

namespace Lines

variable {text line : Bytes}

def carriageReturn : UInt8 := 0x0D

/-- The bytes without one carriage return at their end. -/
def dropReturn (bs : Bytes) : Bytes :=
  if bs.getLast? = some carriageReturn then bs.dropLast else bs

/-- A line without its terminator. -/
def content (line : Bytes) : Bytes :=
  if line.getLast? = some newline then dropReturn line.dropLast else line

/-- The text of a line that is read as it was written. -/
def verbatim (line : Bytes) : List Char :=
  Utf8.lossy (content line)

/-- A line that ends with a newline, which is its only one. -/
def IsComplete (line : Bytes) : Prop :=
  ∃ front, newline ∉ front ∧ line = front ++ [newline]

/-- A text is made up of complete lines and of the beginning of one more, which may be empty. -/
structure Splits (text : Bytes) (complete : List Bytes) (last : Bytes) : Prop where
  whole : complete.flatten ++ last = text
  complete : ∀ line ∈ complete, IsComplete line
  last : newline ∉ last

theorem splitFrom_whole {text : Bytes} (whole : newline ∉ text) (begun : Bytes) :
    splitFrom begun text = ([], begun.reverse ++ text) := by
  induction text generalizing begun with
  | nil => simp [splitFrom]
  | cons b text ih =>
      have other : b ≠ newline := fun same => whole (same ▸ List.mem_cons_self)
      rw [splitFrom, if_neg other, ih fun member => whole (.tail b member)]
      simp

theorem splits_splitFrom (text : Bytes) {begun : Bytes} (begins : newline ∉ begun) :
    Splits (begun.reverse ++ text) (splitFrom begun text).1 (splitFrom begun text).2 := by
  induction text generalizing begun with
  | nil =>
      exact ⟨by simp [splitFrom], fun _ member => (List.not_mem_nil member).elim,
        by simpa [splitFrom] using begins⟩
  | cons b text ih =>
      rw [splitFrom]
      split
      · next here =>
        obtain ⟨whole, complete, last⟩ := ih List.not_mem_nil
        refine ⟨?_, fun line member => ?_, last⟩
        · rw [List.flatten_cons, List.append_assoc, whole]
          simp
        · rcases List.mem_cons.mp member with rfl | later
          · exact ⟨begun.reverse, by simpa using begins, by rw [here, List.reverse_cons]⟩
          · exact complete line later
      · next other =>
        have begins' : newline ∉ b :: begun := by
          rw [List.mem_cons]
          exact not_or.mpr ⟨Ne.symm other, begins⟩
        obtain ⟨whole, complete, last⟩ := ih begins'
        exact ⟨by simpa using whole, complete, last⟩

theorem splits_split (text : Bytes) : Splits text (split text).1 (split text).2 :=
  splits_splitFrom text List.not_mem_nil

/-- A text may be cut anywhere: the line that has begun is put before what comes next. -/
theorem split_append (text rest : Bytes) :
    split (text ++ rest) =
      ((split text).1 ++ (split ((split text).2 ++ rest)).1,
        (split ((split text).2 ++ rest)).2) := by
  have last : newline ∉ (splitFrom [] text).2 := (splits_split text).last
  have again : splitFrom (splitFrom [] text).2.reverse rest =
      splitFrom [] ((splitFrom [] text).2 ++ rest) := by
    rw [splitFrom_append [], splitFrom_whole last]
    simp
  rw [split, split, split, splitFrom_append, again]

/-! ## What is passed on of a line -/

theorem content_of_not_mem (whole : newline ∉ line) : content line = line :=
  if_neg fun last => whole (List.mem_of_getLast? last)

theorem content_concat (front : Bytes) : content (front ++ [newline]) = dropReturn front := by
  rw [content, List.getLast?_concat, if_pos rfl, List.dropLast_concat]

theorem encode_return : String.utf8EncodeChar '\r' = [carriageReturn] := by
  decide

theorem encode_newline : String.utf8EncodeChar '\n' = [newline] := by
  decide

theorem dropEndWhile_lossy (whole : newline ∉ line) :
    Text.dropEndWhile (fun c => c = '\r' || c = '\n') (Utf8.lossy line) =
      Text.dropEndWhile (· = '\r') (Utf8.lossy line) := by
  refine Text.dropEndWhile_congr fun c member => ?_
  have other : c ≠ '\n' := by
    rintro rfl
    exact whole (Utf8.mem_of_mem_lossy encode_newline member)
  simp [other]

theorem dropEndWhile_dropReturn (bs : Bytes) :
    Text.dropEndWhile (· = '\r') (Utf8.lossy (dropReturn bs)) =
      Text.dropEndWhile (· = '\r') (Utf8.lossy bs) := by
  rw [dropReturn]
  split
  · next last =>
    obtain ⟨front, rfl⟩ := List.getLast?_eq_some_iff.mp last
    rw [List.dropLast_concat, Utf8.lossy_concat encode_return, Text.dropEndWhile_append (by simp)]
  · rfl

/-- What is passed on of a line is its text without the carriage returns at its end. -/
theorem text_eq (isLine : IsComplete line ∨ newline ∉ line) :
    Lines.text line = Text.dropEndWhile (· = '\r') (verbatim line) := by
  rcases isLine with ⟨front, whole, rfl⟩ | whole
  · rw [verbatim, content_concat, dropEndWhile_dropReturn, ← dropEndWhile_lossy whole]
    show Text.dropEndWhile _ (Utf8.lossy (front ++ [newline])) = _
    rw [Utf8.lossy_concat encode_newline, Text.dropEndWhile_append (by simp)]
  · rw [verbatim, content_of_not_mem whole]
    exact dropEndWhile_lossy whole

theorem text_eq_verbatim_iff (isLine : IsComplete line ∨ newline ∉ line) :
    Lines.text line = verbatim line ↔ (content line).getLast? ≠ some carriageReturn := by
  rw [text_eq isLine, Text.dropEndWhile_eq_self_iff, verbatim, ne_eq,
    ← not_congr (Utf8.getLast?_lossy encode_return)]
  simp only [decide_eq_false_iff_not]
  exact ⟨fun stays last => stays _ last rfl, fun stays c last same => stays (same ▸ last)⟩

/-- The lines that count when complete lines and the beginning of one more have been read: the one
that has begun counts at the end only. -/
def counted (complete : List Bytes) (last : Bytes) (ended : Bool) : List Bytes :=
  if ended && !last.isEmpty then complete ++ [last] else complete

theorem Splits.isLine {complete : List Bytes} {last : Bytes} {ended : Bool}
    (h : Splits text complete last) (member : line ∈ counted complete last ended) :
    IsComplete line ∨ newline ∉ line := by
  unfold counted at member
  split at member
  · rcases List.mem_append.mp member with inside | left
    · exact .inl (h.complete line inside)
    · exact .inr (List.mem_singleton.mp left ▸ h.last)
  · exact .inl (h.complete line member)

/-- The lines of a text of which more may come. -/
def soFar (text : Bytes) (ended : Bool) : List Bytes :=
  counted (split text).1 (split text).2 ended

theorem soFar_of_not_mem (whole : newline ∉ text) (ended : Bool) :
    soFar text ended = if ended && !text.isEmpty then [text] else [] := by
  rw [soFar, show split text = _ from splitFrom_whole whole []]
  rfl

theorem soFar_append (text rest : Bytes) (ended : Bool) :
    soFar (text ++ rest) ended = (split text).1 ++ soFar ((split text).2 ++ rest) ended := by
  rw [soFar, soFar, split_append, counted, counted]
  split
  · exact List.append_assoc ..
  · rfl

end Lines

namespace Child

/-! ## What goes on beside the reads -/

/-- A monitor that has not read, and may have been told to stop reading. -/
structure Monitor.Lasts (o o' : Monitor) : Prop where
  reader : o'.reader = o.reader
  forwards : o'.forwards = o.forwards
  closed : o.pipe = none → o'.pipe = none

theorem Monitor.Lasts.refl (o : Monitor) : o.Lasts o :=
  ⟨rfl, rfl, id⟩

namespace Keeper

variable {m m' : Machine} {k k' : Keeper} {n : Nat}

/-- The monitor of a process is still there and has not read. -/
def Frames (n : Nat) (k k' : Keeper) : Prop :=
  ∀ o, k.monitors[n]? = some o → ∃ o', k'.monitors[n]? = some o' ∧ o.Lasts o'

theorem Frames.of_same (same : k'.monitors = k.monitors) : Frames n k k' := by
  intro o found
  rw [same]
  exact ⟨o, found, .refl o⟩

theorem frames_modify (n : Nat) (k : Keeper) (n' : Nat) {f : Monitor → Monitor}
    (lasts : ∀ o : Monitor, n' = n → o.Lasts (f o)) : Frames n k (k.modify n' f) := by
  intro o found
  show ∃ o', (k.monitors.modify n' f)[n]? = some o' ∧ o.Lasts o'
  rw [List.getElem?_modify, found]
  split
  · next here => exact ⟨f o, rfl, lasts o here⟩
  · exact ⟨o, rfl, .refl o⟩

theorem frames_begun (n : Nat) (k : Keeper) (child : Machine.Spawned) :
    Frames n k (k.begun child) := by
  intro o found
  refine ⟨o, ?_, .refl o⟩
  show (k.monitors ++ [_])[n]? = some o
  rw [List.getElem?_append_left (List.getElem?_eq_some_iff.mp found).1]
  exact found

theorem frames_stopMonitor (n : Nat) (m : Machine) (k : Keeper) :
    Frames n k (k.stopMonitor m).2 := by
  rw [stopMonitor_eq]
  exact frames_modify n k _ fun _ _ => ⟨rfl, rfl, fun _ => rfl⟩

theorem monitors_pass (k : Keeper) (forwards : Bool) (lines : List Bytes) :
    (k.pass forwards lines).monitors = k.monitors := by
  cases forwards <;> rfl

end Keeper

namespace Bench

variable {m m' : Machine} {b : Bench} {n : Nat} {o : Monitor} {acts : List Act}

theorem frames_move {next : Option (Machine × Keeper)}
    (frames : ∀ m k, next = some (m, k) → Keeper.Frames n b.keeper k) :
    Keeper.Frames n b.keeper (b.move next).keeper := by
  cases next with
  | none => exact .of_same rfl
  | some step => exact frames step.1 step.2 rfl

/-- Only its own reads move a monitor on. -/
theorem frames_act {a : Act} (single : a.waits = false) (other : ∀ m, a ≠ .monitor m n) :
    Keeper.Frames n b.keeper (b.act a).keeper := by
  cases a with
  | install | finish | drop => exact .of_same rfl
  | start m =>
      show Keeper.Frames n b.keeper (b.keeper.start m).2.2
      rcases Keeper.start_cases m b.keeper with ⟨-, same⟩ | ⟨-, -, child, begun⟩
      · rw [same]
        exact .of_same rfl
      · rw [begun]
        exact Keeper.frames_begun n b.keeper child
  | stop m mode =>
      show Keeper.Frames n b.keeper (b.keeper.beginStop m mode).2.2
      rcases Keeper.beginStop_cases m b.keeper mode with ⟨-, same⟩ | ⟨-, stopping, asked | killed⟩
      · rw [same]
        exact .of_same rfl
      · rw [asked]
        exact .of_same rfl
      · rw [killed]
        exact .of_same rfl
  | killNow m =>
      show Keeper.Frames n b.keeper (b.keeper.killNow m).2
      rcases Keeper.killNow_cases m b.keeper with same | settled
      · rw [same]
        exact .of_same rfl
      · rw [settled]
        exact Keeper.frames_stopMonitor n _ (b.keeper.kill m).2
  | takeChannel =>
      obtain ⟨kept, taken⟩ := b.keeper.takeChannel_eq
      show Keeper.Frames n b.keeper b.keeper.takeChannel.2
      rw [taken]
      exact .of_same rfl
  | link m =>
      refine frames_move fun _ _ step => ?_
      obtain ⟨kept, rfl⟩ := Keeper.linkStep_eq step
      exact .of_same rfl
  | monitor m n' =>
      have apart : n' ≠ n := fun same => other m (same ▸ rfl)
      refine frames_move fun _ _ step => ?_
      obtain ⟨o, pipe, -, -, ⟨bytes, m₁, -, rfl⟩ | ⟨-, rfl⟩⟩ := Keeper.monitorStep_cases step
      all_goals
        rw [Keeper.Frames, Keeper.monitors_pass]
        exact Keeper.frames_modify n b.keeper n' fun _ same => absurd same apart
  | watch m n' =>
      refine frames_move fun _ _ step => ?_
      rcases Keeper.watchStep_cases step with
        ⟨exit, deadline, rfl⟩ | ⟨w, exit, -, -, rfl⟩ | ⟨-, rfl⟩
      · exact Keeper.frames_modify n b.keeper n' fun _ _ => ⟨rfl, rfl, id⟩
      · exact .of_same rfl
      · exact .of_same rfl
  | stopping m =>
      refine frames_move fun _ _ step => ?_
      obtain ⟨-, rfl | ⟨stopping, rfl⟩⟩ := Keeper.stopStep_cases step
      · exact Keeper.frames_stopMonitor n m b.keeper
      · exact .of_same rfl
  | wait => cases single

end Bench

def Monitor.read (m : Machine) (o : Monitor) : Machine.ReadResult :=
  (o.pipe.map fun pipe => m.readPipe pipe Wire.gulp).getD .blocked

theorem Keeper.read_eq_blocked {m : Machine} {k : Keeper} {n : Nat} {o : Monitor}
    (found : k.monitors[n]? = some o) (stays : k.monitorStep m n = none) :
    o.read m = .blocked := by
  rw [monitorStep, found] at stays
  cases opened : o.pipe with
  | none => rw [Monitor.read, opened]; rfl
  | some pipe =>
      simp only [opened, Option.bind_eq_bind, Option.bind_some] at stays
      rw [Monitor.read, opened, Option.map_some, Option.getD_some]
      split at stays
      · cases stays
      · cases stays
      · next blocked => exact blocked

namespace Bench

/-- What an act reads from the standard error stream of a process. -/
def reads (b : Bench) (n : Nat) : Act → Machine.ReadResult
  | .monitor m n' =>
    if n' = n then ((b.keeper.monitors[n]?).map (Monitor.read m)).getD .blocked else .blocked
  | _ => .blocked

/-- The lines of a process that the handler is given by an act. -/
def gives (b : Bench) (n : Nat) (a : Act) : List String :=
  match a with
  | .monitor _ n' =>
    if n' = n then
      ((b.act a).keeper.notices.drop b.keeper.notices.length).filterMap Notice.line?
    else []
  | _ => []

end Bench

/-- What comes of the standard error stream of a process. -/
structure Transcript where
  /-- What was read. -/
  bytes : Bytes := []
  /-- Whether the end was reached. -/
  ended : Bool := false
  /-- What the handler was given. -/
  lines : List String := []
  deriving DecidableEq

namespace Bench

/-- What comes of the standard error stream of a process in the course of acts. -/
def transcript (b : Bench) (n : Nat) : List Act → Transcript
  | [] => {}
  | a :: acts =>
    let t := (b.act a).transcript n acts
    let t := { t with lines := b.gives n a ++ t.lines }
    match b.reads n a with
    | .data bytes _ => { t with bytes := bytes ++ t.bytes }
    | .atEnd => { t with ended := true }
    | .blocked => t

variable {m m' : Machine} {b : Bench} {n : Nat} {o : Monitor} {acts : List Act}

/-- What a handler is given for some lines of a stream, if it gets them. -/
def passed (forwards : Bool) (lines : List Bytes) : List String :=
  if forwards then lines.map fun l => String.ofList (Lines.text l) else []

/-- What becomes of a monitor, by what is read, and which lines its handler is given. -/
inductive Advances (o : Monitor) : Machine.ReadResult → Monitor → List String → Prop
  | block (bytes : Bytes) (m : Machine) (opened : o.pipe ≠ none) :
      Advances o (.data bytes m) { o with reader := (o.reader.feed bytes).2 }
        (passed o.forwards (o.reader.feed bytes).1)
  | ended (opened : o.pipe ≠ none) :
      Advances o .atEnd { o with pipe := none } (passed o.forwards o.reader.finish)
  | idle {o' : Monitor} (lasts : o.Lasts o') : Advances o .blocked o' []

theorem filterMap_pass (k : Keeper) (f : Monitor → Monitor) (forwards : Bool)
    (lines : List Bytes) :
    (((k.modify n f).pass forwards lines).notices.drop k.notices.length).filterMap Notice.line? =
      passed forwards lines := by
  cases forwards with
  | false =>
      show (k.notices.drop k.notices.length).filterMap Notice.line? = []
      rw [List.drop_length]
      rfl
  | true =>
      show ((k.notices ++ _).drop k.notices.length).filterMap Notice.line? = lines.map _
      rw [List.drop_left, List.filterMap_map, ← List.filterMap_eq_map]
      rfl

theorem getElem?_pass {k : Keeper} {f : Monitor → Monitor} {forwards : Bool} {lines : List Bytes}
    (found : k.monitors[n]? = some o) :
    ((k.modify n f).pass forwards lines).monitors[n]? = some (f o) := by
  rw [Keeper.monitors_pass]
  show (k.monitors.modify n f)[n]? = _
  rw [List.getElem?_modify_eq, found]
  rfl

theorem advances_monitor (m : Machine) (found : b.keeper.monitors[n]? = some o) :
    ∃ o', (b.act (.monitor m n)).keeper.monitors[n]? = some o' ∧
      Advances o (b.reads n (.monitor m n)) o' (b.gives n (.monitor m n)) := by
  have reads : b.reads n (.monitor m n) = o.read m := by
    rw [Bench.reads, if_pos rfl, found]
    rfl
  have gives : b.gives n (.monitor m n) =
      ((b.move (b.keeper.monitorStep m n)).keeper.notices.drop
        b.keeper.notices.length).filterMap Notice.line? := if_pos rfl
  show ∃ o', (b.move (b.keeper.monitorStep m n)).keeper.monitors[n]? = some o' ∧ _
  cases step : b.keeper.monitorStep m n with
  | some next =>
      obtain ⟨m', k'⟩ := next
      rw [step] at gives
      obtain ⟨o₁, pipe, found', opened, ⟨bytes, m₁, read, rfl⟩ | ⟨read, rfl⟩⟩ :=
        Keeper.monitorStep_cases step
      · cases found.symm.trans found'
        refine ⟨_, getElem?_pass found, ?_⟩
        have data : o.read m = .data bytes m₁ := by
          rw [Monitor.read, opened]
          exact read
        rw [reads, data, gives.trans (filterMap_pass b.keeper _ o.forwards _)]
        exact .block bytes m₁ (by simp [opened])
      · cases found.symm.trans found'
        refine ⟨_, getElem?_pass found, ?_⟩
        have atEnd : o.read m = .atEnd := by
          rw [Monitor.read, opened]
          exact read
        rw [reads, atEnd, gives.trans (filterMap_pass b.keeper _ o.forwards _)]
        exact .ended (by simp [opened])
  | none =>
      have nothing : b.gives n (.monitor m n) = [] := by
        rw [gives, step]
        show (b.keeper.notices.drop b.keeper.notices.length).filterMap Notice.line? = []
        rw [List.drop_length]
        rfl
      refine ⟨o, found, ?_⟩
      rw [reads, Keeper.read_eq_blocked found step, nothing]
      exact .idle (.refl o)

/-- An act reads a block, or the end of the stream, or nothing. -/
theorem advances_act {a : Act} (single : a.waits = false)
    (found : b.keeper.monitors[n]? = some o) :
    ∃ o', (b.act a).keeper.monitors[n]? = some o' ∧ Advances o (b.reads n a) o' (b.gives n a) := by
  by_cases own : ∃ m, a = .monitor m n
  · obtain ⟨m, rfl⟩ := own
    exact advances_monitor m found
  · have other : ∀ m, a ≠ .monitor m n := fun m here => own ⟨m, here⟩
    obtain ⟨o', found', lasts⟩ := frames_act single other o found
    have silent : b.reads n a = .blocked ∧ b.gives n a = [] := by
      cases a with
      | monitor m n' =>
          have apart : n' ≠ n := fun same => other m (same ▸ rfl)
          exact ⟨if_neg apart, if_neg apart⟩
      | _ => exact ⟨rfl, rfl⟩
    refine ⟨o', found', ?_⟩
    rw [silent.1, silent.2]
    exact .idle lasts

theorem passed_append (forwards : Bool) (lines lines' : List Bytes) :
    passed forwards (lines ++ lines') = passed forwards lines ++ passed forwards lines' := by
  cases forwards with
  | false => rfl
  | true => exact List.map_append

/-- Nothing comes of a stream that is not read any more. -/
theorem transcript_of_closed (single : ∀ a ∈ acts, a.waits = false)
    (found : b.keeper.monitors[n]? = some o) (closed : o.pipe = none) :
    b.transcript n acts = {} := by
  induction acts generalizing b o with
  | nil => rfl
  | cons a acts ih =>
      obtain ⟨o', found', advances⟩ := advances_act (single a List.mem_cons_self) found
      rw [transcript]
      generalize b.reads n a = read at advances
      generalize b.gives n a = given at advances
      cases advances with
      | block _ _ opened => exact absurd closed opened
      | ended opened => exact absurd closed opened
      | idle lasts =>
          rw [ih (fun a' later => single a' (.tail a later)) found' (lasts.closed closed)]
          rfl

/-- However the reads cut a stream and whatever goes on between them, the handler is given its lines
one after the other. -/
theorem lines_transcript (single : ∀ a ∈ acts, a.waits = false)
    (found : b.keeper.monitors[n]? = some o) (whole : Lines.newline ∉ o.reader.begun) :
    (b.transcript n acts).lines = passed o.forwards (Lines.soFar
      (o.reader.begun ++ (b.transcript n acts).bytes) (b.transcript n acts).ended) := by
  induction acts generalizing b o with
  | nil =>
      show [] = passed o.forwards (Lines.soFar (o.reader.begun ++ []) false)
      rw [List.append_nil, Lines.soFar_of_not_mem whole]
      cases o.forwards <;> rfl
  | cons a acts ih =>
      have later : ∀ a ∈ acts, a.waits = false := fun a' member => single a' (.tail a member)
      obtain ⟨o', found', advances⟩ := advances_act (single a List.mem_cons_self) found
      have lines := ih later found'
      have closed := transcript_of_closed later found'
      rw [transcript]
      generalize b.reads n a = read at advances
      generalize b.gives n a = given at advances
      generalize (b.act a).transcript n acts = t at lines closed
      cases advances with
      | block bytes m =>
          have begun : Lines.newline ∉ (Lines.split (o.reader.begun ++ bytes)).2 :=
            (Lines.splits_split _).last
          show passed _ (Lines.split (o.reader.begun ++ bytes)).1 ++ t.lines =
            passed _ (Lines.soFar (o.reader.begun ++ (bytes ++ t.bytes)) t.ended)
          rw [lines begun, ← List.append_assoc, Lines.soFar_append (o.reader.begun ++ bytes),
            passed_append]
          rfl
      | ended =>
          rw [closed rfl]
          have last : o.reader.finish = Lines.soFar o.reader.begun true := by
            rw [Lines.soFar_of_not_mem whole, Lines.Reader.finish]
            cases o.reader.begun <;> rfl
          show passed _ o.reader.finish ++ [] = passed _ (Lines.soFar (o.reader.begun ++ []) true)
          rw [last, List.append_nil, List.append_nil]
      | idle lasts =>
          rw [lasts.reader, lasts.forwards] at lines
          exact lines whole

/-- A process that is started while a handler for lines is installed: whatever goes on afterwards
and however its standard error stream is cut into reads, the handler is given, in order, the lines
that have been read, the last of which may lack a terminator at the end of the stream. Each comes
decoded and without its terminator, but also without all other carriage returns at its end. So they
come as they were written exactly if no line ends in a carriage return in front of its terminator.

A call that waits does nothing of its own (`leads_wait`), so it is left out. -/
theorem lines_given_iff {child : Machine.Spawned} (free : b.keeper.isRunning = false)
    (handled : b.keeper.handler = true)
    (spawned : m.spawn b.keeper.around b.keeper.plan = .ok (child, m'))
    (single : ∀ a ∈ acts, a.waits = false) :
    let t := (b.act (.start m)).transcript b.keeper.monitors.length acts
    ∃ complete last, Lines.Splits t.bytes complete last ∧
      let lines := Lines.counted complete last t.ended
      t.lines = lines.map (fun line =>
          String.ofList (Text.dropEndWhile (· = '\r') (Lines.verbatim line))) ∧
        (t.lines = lines.map (fun line => String.ofList (Lines.verbatim line)) ↔
          ∀ line ∈ lines, (Lines.content line).getLast? ≠ some Lines.carriageReturn) := by
  intro t
  have splits := Lines.splits_split t.bytes
  have found : (b.act (.start m)).keeper.monitors[b.keeper.monitors.length]? =
      some { pipe := some child.stderr, forwards := true } := by
    rw [act_start free spawned]
    show (b.keeper.monitors ++ [_])[b.keeper.monitors.length]? = _
    rw [List.getElem?_concat_length, handled]
  have given : t.lines =
      (Lines.soFar t.bytes t.ended).map fun line => String.ofList (Lines.text line) :=
    lines_transcript single found List.not_mem_nil
  rw [given]
  refine ⟨_, _, splits, List.map_congr_left fun line member => ?_, ?_⟩
  · rw [Lines.text_eq (splits.isLine member)]
  · rw [Lines.soFar, List.map_inj_left]
    refine forall₂_congr fun line member => ?_
    rw [← Lines.text_eq_verbatim_iff (splits.isLine member)]
    exact ⟨fun same => String.ofList_injective same, congrArg String.ofList⟩

/-- A machine on whose first pipe something was written, which nobody can write to any more. -/
def onePipe (bytes : Bytes) : Machine :=
  { pipes := [(1, { front := bytes, size := bytes.length })] }

/-- Three lines, cut within the first terminator and given while the keeper is dropped: one of them
is blank, and the last one has no terminator. -/
theorem lines_given_iff_blank :
    let b := (alone true).act (.start (oneProgram 7))
    let t := b.transcript 0 [.monitor (onePipe [0x61, 0x0D]) 0,
      .monitor (onePipe [0x0A, 0x0A, 0x62]) 0, .drop {}, .monitor (onePipe []) 0]
    t = ⟨[0x61, 0x0D, 0x0A, 0x0A, 0x62], true, ["a", "", "b"]⟩ ∧
      ∃ complete last, Lines.Splits t.bytes complete last ∧
        let lines := Lines.counted complete last t.ended
        t.lines = lines.map (fun line =>
            String.ofList (Text.dropEndWhile (· = '\r') (Lines.verbatim line))) ∧
          (t.lines = lines.map (fun line => String.ofList (Lines.verbatim line)) ↔
            ∀ line ∈ lines, (Lines.content line).getLast? ≠ some Lines.carriageReturn) := by
  intro b t
  obtain ⟨m', spawned⟩ := spawn_oneProgram 7
  have single : ∀ a ∈ [Act.monitor (onePipe [0x61, 0x0D]) 0,
      .monitor (onePipe [0x0A, 0x0A, 0x62]) 0, .drop {}, .monitor (onePipe []) 0],
      a.waits = false := by simp [Act.waits]
  have course : t = ⟨[0x61, 0x0D, 0x0A, 0x0A, 0x62], true, ["a", "", "b"]⟩ := by
    show b.transcript 0 _ = _
    rw [show b = _ from act_start (b := alone true) (m := oneProgram 7) rfl spawned]
    decide +kernel
  exact ⟨course, lines_given_iff (b := alone true) rfl rfl spawned single⟩

/-- A line that ends in a carriage return in front of its terminator, and a last one without a
terminator: neither comes as it was written. -/
theorem carriage_returns_are_lost :
    let b := (alone true).act (.start (oneProgram 7))
    let t := b.transcript 0
      [.monitor (onePipe [0x61, 0x0D, 0x0D, 0x0A, 0x62, 0x0D]) 0, .monitor (onePipe []) 0]
    t.bytes = [0x61, 0x0D, 0x0D, 0x0A, 0x62, 0x0D] ∧ t.ended ∧ t.lines = ["a", "b"] ∧
      (Lines.soFar t.bytes t.ended).map (fun line => String.ofList (Lines.verbatim line)) =
        ["a\r", "b\r"] := by
  intro b t
  obtain ⟨m', spawned⟩ := spawn_oneProgram 7
  have begun : b = _ := act_start (b := alone true) (m := oneProgram 7) rfl spawned
  have course : t = ⟨[0x61, 0x0D, 0x0D, 0x0A, 0x62, 0x0D], true, ["a", "b"]⟩ := by
    show b.transcript 0 _ = _
    rw [begun]
    decide +kernel
  rw [course]
  decide +kernel

end Bench

end Child

end RLanguageHost
