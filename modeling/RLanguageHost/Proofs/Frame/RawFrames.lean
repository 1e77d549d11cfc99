import RLanguageHost.Proofs.Frame.Calls

/-!
# Frames with any bytes

A peer may send a body that is no text. Its frame announces the number of its bytes, but a receiver
counts the bytes of the text that was made of them, in which three stand for each malformed
sequence.

`Intact` says when the two come to the same: every malformed sequence has three bytes, and the last
body does not end within a character, for what is kept back at the end of the stream is lost. Then
all bodies are received, as text, and otherwise they are not (`receive_raw_frames`).
-/

namespace RLanguageHost.Frame

/-- The frame of a body of any bytes. -/
def rawFrame (body : Bytes) : Bytes :=
  Utf8.encode (header body.length ++ boundary) ++ body

/-- Bodies that take as many bytes as their texts; the last one ends where a character or a
malformed sequence does. -/
structure Intact (bodies : List Bytes) : Prop where
  sized : ∀ body ∈ bodies, byteLength (Utf8.lossy body) = body.length
  whole : ∀ body ∈ bodies.getLast?, Utf8.undecided body = []

/-! ## The text of frames -/

theorem decided_rawFrame_append (body more : Bytes) :
    Utf8.decided (rawFrame body ++ more) =
        header body.length ++ boundary ++ Utf8.decided (body ++ more) ∧
      Utf8.undecided (rawFrame body ++ more) = Utf8.undecided (body ++ more) := by
  rw [rawFrame, List.append_assoc]
  exact Utf8.decided_encode_append _ _

theorem decided_rawFrame (body : Bytes) :
    Utf8.decided ([body].flatMap rawFrame) =
        header body.length ++ boundary ++ Utf8.decided body ∧
      Utf8.undecided ([body].flatMap rawFrame) = Utf8.undecided body := by
  have last := decided_rawFrame_append body []
  rw [List.append_nil, List.append_nil] at last
  rwa [List.flatMap_singleton]

theorem rawFrame_eq_cons (body : Bytes) : ∃ tail, rawFrame body = 0x43 :: tail := by
  have starts : lengthName.toList = 'C' :: "ontent-Length".toList := rfl
  rw [rawFrame, header_eq, starts]
  exact ⟨_, rfl⟩

/-- The next frame starts with an ASCII character, before which all is decided. -/
theorem decided_rawFrames (body next : Bytes) (rest : List Bytes) :
    Utf8.decided ((body :: next :: rest).flatMap rawFrame) =
        header body.length ++ boundary ++
          (Utf8.lossy body ++ Utf8.decided ((next :: rest).flatMap rawFrame)) ∧
      Utf8.undecided ((body :: next :: rest).flatMap rawFrame) =
        Utf8.undecided ((next :: rest).flatMap rawFrame) := by
  obtain ⟨tail, starts⟩ := rawFrame_eq_cons next
  have follows : (next :: rest).flatMap rawFrame = 0x43 :: (tail ++ rest.flatMap rawFrame) := by
    rw [List.flatMap_cons, starts]
    rfl
  obtain ⟨text, left⟩ := decided_rawFrame_append body ((next :: rest).flatMap rawFrame)
  obtain ⟨text', left'⟩ :=
    Utf8.decided_append_start body (a := 0x43) (by decide) (tail ++ rest.flatMap rawFrame)
  rw [List.flatMap_cons, text, left, follows, text', left']
  exact ⟨rfl, rfl⟩

theorem frame_lossy {body : Bytes} (sized : byteLength (Utf8.lossy body) = body.length) :
    frame (Utf8.lossy body) = header body.length ++ boundary ++ Utf8.lossy body := by
  rw [frame, sized]

/-- The text of intact bodies is that of the frames of their texts. -/
theorem Intact.decided {bodies : List Bytes} (h : Intact bodies) :
    Utf8.decided (bodies.flatMap rawFrame) = (bodies.map Utf8.lossy).flatMap frame ∧
      Utf8.undecided (bodies.flatMap rawFrame) = [] := by
  induction bodies with
  | nil => exact ⟨Utf8.decided_nil, Utf8.undecided_nil⟩
  | cons body rest ih =>
      have sized := h.sized body List.mem_cons_self
      cases rest with
      | nil =>
          have whole := h.whole body rfl
          have same := Utf8.lossy_eq body
          rw [if_pos whole, List.append_nil] at same
          obtain ⟨text, left⟩ := decided_rawFrame body
          rw [text, left, List.map_singleton, List.flatMap_singleton, frame_lossy sized, same]
          exact ⟨rfl, whole⟩
      | cons next rest =>
          obtain ⟨later, whole⟩ := ih
            ⟨fun b member => h.sized b (List.mem_cons_of_mem _ member), h.whole⟩
          obtain ⟨text, left⟩ := decided_rawFrames body next rest
          refine ⟨?_, left.trans whole⟩
          rw [text, later, ← List.append_assoc, ← frame_lossy sized]
          rfl

/-! ## What a receiver makes of it -/

/-- A message has as many bytes as its header says. -/
theorem first_message {n : Nat} (small : n ≤ maxLength) {text message : List Char}
    {later : List (List Char)}
    (h : (Receiver.split (header n ++ boundary ++ text)).1 = message :: later) :
    byteLength message = n ∧ ∃ rest, text = message ++ rest := by
  have plain : '\r' ∉ header n := not_mem_header (by decide) (by decide) _
  cases taken : takeBytes n text with
  | all body rest =>
      have parsed : parse (header n ++ boundary ++ text) = .message body rest := by
        simp only [parse, splitHeader_append plain, contentLength_header small, taken]
      rw [Receiver.split_of_message parsed] at h
      obtain ⟨rfl, -⟩ := List.cons.inj h
      obtain ⟨split, length⟩ := eq_append_of_takeBytes taken
      exact ⟨length, rest, split⟩
  | short =>
      have parsed : parse (header n ++ boundary ++ text) = .incomplete := by
        simp only [parse, splitHeader_append plain, contentLength_header small, taken]
      rw [Receiver.split_of_incomplete parsed] at h
      cases h
  | split =>
      have parsed : parse (header n ++ boundary ++ text) = .bad .splitCharacter := by
        simp only [parse, splitHeader_append plain, contentLength_header small, taken]
      rw [Receiver.split_of_bad parsed] at h
      cases h

/-- Bodies that come first in what a receiver takes off are intact. -/
theorem intact_of_prefix {bodies : List Bytes} (small : ∀ body ∈ bodies, body.length ≤ maxLength)
    (h : bodies.map Utf8.lossy <+: (Receiver.split (Utf8.decided (bodies.flatMap rawFrame))).1) :
    Intact bodies := by
  induction bodies with
  | nil => exact ⟨by simp, by simp⟩
  | cons body rest ih =>
      have fits := small body List.mem_cons_self
      obtain ⟨more, same⟩ := h
      cases rest with
      | nil =>
          rw [(decided_rawFrame body).1] at same
          obtain ⟨sized, after, text⟩ := first_message fits same.symm
          refine ⟨by simpa using sized, ?_⟩
          rintro _ ⟨⟩
          change Utf8.undecided body = []
          -- What is kept back would be missing from the message.
          by_cases whole : Utf8.undecided body = []
          · exact whole
          · have lossy := Utf8.lossy_eq body
            rw [if_neg whole] at lossy
            have lengths := congrArg List.length text
            rw [lossy] at lengths
            simp only [List.length_append, List.length_singleton] at lengths
            omega
      | cons next rest =>
          rw [(decided_rawFrames body next rest).1] at same
          obtain ⟨sized, -⟩ := first_message fits same.symm
          have parsed := parse_frame_append (sized ▸ fits)
            (Utf8.decided ((next :: rest).flatMap rawFrame))
          rw [frame_lossy sized, List.append_assoc _ (Utf8.lossy body)] at parsed
          rw [Receiver.split_of_message parsed] at same
          obtain ⟨later, whole⟩ := ih (fun b member => small b (List.mem_cons_of_mem _ member))
            ⟨more, (List.cons.inj same).2⟩
          exact ⟨List.forall_mem_cons.mpr ⟨sized, later⟩, whole⟩

namespace Reception

/-! ## Reading everything first -/

theorem run_append (s : Reception) (first second : List Turn) :
    s.run (first ++ second) = (s.run first).run second :=
  List.foldl_append

/-- Results are never taken back. -/
theorem results_turn (s : Reception) (t : Turn) : s.results <+: (s.turn t).results := by
  cases t with
  | background move =>
      rw [turn]
      split <;> exact List.prefix_rfl
  | call =>
      rw [turn]
      unfold record
      split
      · exact List.prefix_append _ _
      · exact List.prefix_append _ _
      · exact List.prefix_rfl

theorem results_run (s : Reception) (turns : List Turn) : s.results <+: (s.run turns).results := by
  induction turns generalizing s with
  | nil => exact List.prefix_rfl
  | cons t rest ih => exact (results_turn s t).trans (ih (s.turn t))

theorem turn_read {s : Reception} {texts : List (List Char)} (holds : s.channel.Holds texts)
    (reading : s.channel.reader.finished = false) (some : s.channel.reader.deliveries ≠ []) :
    let t := s.turn (.background .read)
    t.channel.Holds (texts ++ s.channel.reader.read.1) ∧
      t.channel.reader = s.channel.reader.read.2 ∧ t.receiver = s.receiver ∧
      t.results = s.results := by
  have can : s.channel.enabled .read := by simp [Channel.enabled, reading, some]
  have connected := holds.connected
  simp only [Channel.isConnected, Bool.and_eq_true, Bool.not_eq_true'] at connected
  rw [turn, if_pos can]
  refine ⟨⟨holds.connected, ?_⟩, rfl, rfl, rfl⟩
  simp [Channel.move, connected, holds.incoming]

/-- A reader that goes on reading passes on what is decided of the whole stream. -/
theorem holds_of_reads {s : Reception} {held : Bytes} {reads : List Bytes}
    {texts : List (List Char)} (holds : s.channel.Holds texts)
    (reader : s.channel.reader = { deliveries := reads.map .bytes ++ [.endOfStream], held })
    (kept : Utf8.next held = none) :
    let t := s.run (List.replicate (reads.length + 1) (.background .read))
    (∃ new, new.flatten = Utf8.decided (held ++ reads.flatten) ∧ t.channel.Holds (texts ++ new)) ∧
      t.channel.reader.finished ∧ t.receiver = s.receiver ∧ t.results = s.results := by
  induction reads generalizing s held texts with
  | nil =>
      have ends : s.channel.reader.read = ([], { held, finished := true }) := by
        rw [reader]
        simp [Channel.Reader.read, kept]
      obtain ⟨holds', reader', same⟩ := turn_read holds (by rw [reader]) (by simp [reader])
      rw [ends] at holds' reader'
      refine ⟨⟨[], ?_, holds'⟩, congrArg Channel.Reader.finished reader', same⟩
      have nothing := (Utf8.drain_of_next_eq_none kept).1
      simp [nothing]
  | cons block reads ih =>
      have passes : s.channel.reader.read = ((Utf8.drain (held ++ block)).1,
          { deliveries := reads.map .bytes ++ [.endOfStream]
            held := Utf8.undecided (held ++ block) }) := by
        rw [reader]
        rfl
      obtain ⟨holds', reader', receiver, results⟩ :=
        turn_read holds (by rw [reader]) (by simp [reader])
      rw [passes] at holds' reader'
      obtain ⟨⟨new, text, holds''⟩, finished, receiver', results'⟩ :=
        ih holds' reader' (Utf8.next_drain _)
      refine ⟨⟨_ ++ new, ?_, List.append_assoc .. ▸ holds''⟩, finished, receiver'.trans receiver,
        results'.trans results⟩
      have cut := (Utf8.decided_append (held ++ block) reads.flatten).1
      rw [List.flatten_append, text, List.flatten_cons, ← List.append_assoc, cut]
      rfl

/-- Of two runs of calls from one state, the shorter one has given the first results of the other.
-/
theorem results_calls (s : Reception) {n m : Nat} (le : n ≤ m) :
    (s.run (List.replicate n .call)).results <+: (s.run (List.replicate m .call)).results := by
  obtain ⟨more, rfl⟩ := Nat.exists_eq_add_of_le le
  rw [← List.replicate_append_replicate, run_append]
  exact results_run _ _

/-- Messages that calls give when everything has been read are the first ones of the stream. -/
theorem messages_of_reads {reads : List Bytes} {calls : Nat} {messages : List (List Char)}
    (given : (((start reads).run (List.replicate (reads.length + 1) (.background .read))).run
      (List.replicate calls .call)).results = messages.map .ok) :
    messages <+: (Receiver.split (Utf8.decided reads.flatten)).1 := by
  have empty : (start reads).channel.Holds [] := ⟨rfl, rfl⟩
  obtain ⟨⟨texts, text, holds⟩, finished, receiver, results⟩ :=
    holds_of_reads empty rfl Utf8.next_nil
  generalize (start reads).run (List.replicate (reads.length + 1) (.background .read)) = s at *
  obtain ⟨c, r, past⟩ := s
  obtain rfl : r = {} := receiver
  obtain rfl : past = [] := results
  have ends : Channel.receive { c with incoming := [] } =
      (.failed .disconnected, { c with incoming := [] }) := by
    have idle : Channel.Holds { c with incoming := [] } [] := ⟨holds.connected, rfl⟩
    rw [idle.receive_nil, if_pos finished]
  have arrives : c.incoming = texts.map .text ++ [] := by rw [List.append_nil, holds.incoming]; rfl
  have clean : Receiver.IsClean {} := rfl
  have all := congrArg Reception.results
    (givesAll holds.connected arrives ends clean.isDrained [])
  have said : (Receiver.answers {} texts).filterMap Except.toOption =
      (Receiver.split (Utf8.decided reads.flatten)).1 := by
    rw [Receiver.filterMap_answers clean.isDrained, text]
    rfl
  -- The calls end before the channel gives up, for it does so with an error.
  rcases Nat.le_total calls ((Receiver.answers {} texts).length + 1) with before | after
  · have first := (results_calls { channel := c } before).filterMap Except.toOption
    rw [given, all, Receiver.filterMap_map_ok] at first
    rw [List.nil_append, List.filterMap_append, said] at first
    exact List.append_nil (Receiver.split _).1 ▸ first
  · have first := results_calls { channel := c } after
    rw [given, all] at first
    obtain ⟨message, -, same⟩ := List.mem_map.mp (first.subset (List.mem_concat_self))
    cases same

/-! ## What is received -/

/-- Calls when everything has been read give what is due. -/
theorem Delivers.results_after_reads {bodies : List (List Char)} {reads : List Bytes}
    (begun : Delivers bodies (start reads)) (turns : List Turn) (calls : Nat) :
    ((((start reads).run turns).run (List.replicate (reads.length + 1) (.background .read))).run
        (List.replicate calls .call)).results =
      (List.range (((start reads).run turns).results.length + calls)).map (due bodies) := by
  have now := begun.run turns
  have read := now.run (List.replicate (reads.length + 1) (.background .read))
  have enough : ((start reads).run turns).channel.reader.deliveries.length ≤ reads.length + 1 := by
    refine Nat.le_trans (begun.length_deliveries_run_le turns) ?_
    simp [start, Channel.ofReads, Channel.ofDeliveries]
  have count := read.length_results_calls (now.finished_of_reads enough) calls
  rw [results_reads] at count
  rw [(read.run _).results, count]

theorem map_due_range (bodies : List (List Char)) :
    (List.range bodies.length).map (due bodies) = bodies.map .ok := by
  refine List.ext_getElem (by simp) fun call within _ => ?_
  have known : call < bodies.length := by simpa using within
  simp [due, known]

/-- The bodies of frames may be any bytes. However these are cut into reads and whenever the calls
come, the calls give the texts of the bodies in order if the bodies are intact, a U+FFFD in the
place of each malformed sequence. If they are not, as many calls as there are bodies do not give the
texts, also if everything has been read before. -/
theorem receive_raw_frames {bodies : List Bytes}
    (small : ∀ body ∈ bodies, body.length ≤ maxLength) {reads : List Bytes}
    (cut : reads.flatten = bodies.flatMap rawFrame) :
    (Intact bodies → ∀ turns,
      let s := (start reads).run turns
      let texts := bodies.map Utf8.lossy
      s.results = (List.range s.results.length).map (due texts) ∧
        ∀ calls, ((s.run (List.replicate (reads.length + 1) (.background .read))).run
            (List.replicate calls .call)).results =
          (List.range (s.results.length + calls)).map (due texts)) ∧
      ((((start reads).run (List.replicate (reads.length + 1) (.background .read))).run
          (List.replicate bodies.length .call)).results = (bodies.map Utf8.lossy).map .ok ↔
        Intact bodies) := by
  have begun : Intact bodies → Delivers (bodies.map Utf8.lossy) (start reads) := by
    intro intact
    obtain ⟨text, whole⟩ := intact.decided
    refine delivers_of_decided (fun text member => ?_) (cut ▸ whole) (cut ▸ text)
    obtain ⟨body, known, rfl⟩ := List.mem_map.mp member
    exact intact.sized body known ▸ small body known
  refine ⟨fun intact turns => ?_, fun given => ?_, fun intact => ?_⟩
  · exact ⟨((begun intact).run turns).results, (begun intact).results_after_reads turns⟩
  · have first := messages_of_reads given
    rw [cut] at first
    exact intact_of_prefix small first
  · have after := (begun intact).results_after_reads [] bodies.length
    rw [← map_due_range, List.length_map]
    exact after.trans (congrArg _ (congrArg _ (Nat.zero_add _)))

/-- Three bytes begin a character of four and then an `A` follows; that is one malformed sequence,
as long as the U+FFFD for it. The reads are cut within the sequence and within the next header. -/
theorem receive_raw_frames_three_bytes :
    let bodies := [[0xF0, 0x90, 0x80, 0x41], bytesOf "ok"]
    let reads := [bytesOf "Content-Length: 4\r\n\r\n" ++ [0xF0, 0x90],
      [0x80, 0x41] ++ bytesOf "Content-Len", bytesOf "gth: 2\r\n\r\nok"]
    (∀ body ∈ bodies, body.length ≤ maxLength) ∧ reads.flatten = bodies.flatMap rawFrame ∧
      Intact bodies ∧
      (((start reads).run (List.replicate 4 (.background .read))).run
          (List.replicate 2 .call)).results =
        [.ok [Utf8.replacement, 'A'], .ok ['o', 'k']] := by
  intro bodies reads
  have small : ∀ body ∈ bodies, body.length ≤ maxLength := by decide
  have cut : reads.flatten = bodies.flatMap rawFrame := by decide
  have intact : Intact bodies := ⟨by decide +kernel, by decide +kernel⟩
  have texts : bodies.map Utf8.lossy = [[Utf8.replacement, 'A'], ['o', 'k']] := by decide +kernel
  have given := (receive_raw_frames small cut).2.mpr intact
  rw [texts] at given
  exact ⟨small, cut, intact, given⟩

/-- The byte FF in quotes, three bytes in all, and then another frame. The first call gives an error
in the place of the text, and so does the next one in the place of the other frame. -/
theorem raw_frame_refused :
    let bodies := [[0x22, 0xFF, 0x22], bytesOf "ok"]
    let read := (start [bodies.flatMap rawFrame]).run (List.replicate 2 (.background .read))
    let results := (read.run (List.replicate 2 .call)).results
    bodies.map Utf8.lossy = [['"', Utf8.replacement, '"'], ['o', 'k']] ∧
      (results.map fun
        | .ok _ => none
        | .error e => some e) = [some .splitCharacter, some .splitCharacter] := by
  decide +kernel

end Reception

end RLanguageHost.Frame
