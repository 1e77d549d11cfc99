import RLanguageHost.Channel.Traffic
import RLanguageHost.Proofs.Text.Sequences

/-!
# What arrives on a channel

The reader of a channel passes on the text of the bytes that it reads, in pieces that depend on how
the bytes were cut. `Carries` says what a channel in use has in its queue and what its reader has
still to pass on; every move in the background only shifts text from the second to the first.

There the stream need not be well formed, but it ends with a whole character or malformed sequence.
Its end is reached after as many reads as were delivered, and then the reader holds nothing.

What is passed on of any bytes, and what is held of them, does not depend on the cuts
(`passes_on_text`).
-/

namespace RLanguageHost.Channel

/-! ## Texts in the queue -/

/-- A channel in use, on which some texts have arrived and were not received yet. -/
structure Holds (c : Channel) (texts : List (List Char)) : Prop where
  connected : c.isConnected
  incoming : c.incoming = texts.map .text

theorem Holds.eq_self {c : Channel} {texts : List (List Char)} (h : c.Holds texts) :
    c = { c with incoming := texts.map .text } := by
  rw [← h.incoming]

theorem Holds.receive_cons {c : Channel} {text : List Char} {texts : List (List Char)}
    (h : c.Holds (text :: texts)) :
    c.receive = (.done text, { c with incoming := texts.map .text }) := by
  simp [Channel.receive, takeArrived, h.connected, h.incoming]

theorem Holds.receive_nil {c : Channel} (h : c.Holds []) :
    c.receive = (if c.reader.finished then .failed .disconnected else .waiting, c) := by
  simp [Channel.receive, takeArrived, h.connected, h.incoming]

theorem Holds.tail {c : Channel} {text : List Char} {texts : List (List Char)}
    (h : c.Holds (text :: texts)) :
    ({ c with incoming := texts.map .text } : Channel).Holds texts :=
  ⟨h.connected, rfl⟩

theorem takeArrived_waiting {c c' : Channel} (waits : c.takeArrived = (.waiting, c')) :
    c' = c ∧ c.incoming = [] := by
  rw [takeArrived] at waits
  split at waits
  · cases waits
  · cases waits
  · next none => exact ⟨(Prod.mk.inj waits).2.symm, none⟩

theorem eq_of_receive_waiting {c c' : Channel} (waits : c.receive = (.waiting, c')) : c' = c := by
  rw [receive] at waits
  split at waits
  · cases waits
  · exact (takeArrived_waiting waits).1

/-- A call that goes on waiting could as well have begun now. -/
theorem receive_of_resume_waiting {c c' : Channel} {sight : Sight}
    (waits : c.resume sight = (.waiting, c')) :
    c' = c ∧ c.isConnected ∧ c.receive = (.waiting, c) := by
  rw [resume] at waits
  split at waits
  · cases waits
  · next unseen =>
    obtain ⟨rfl, none⟩ := takeArrived_waiting waits
    have connected : c'.isConnected := by simpa [none] using unseen
    refine ⟨rfl, connected, ?_⟩
    rw [receive, if_neg (by simp [connected]), waits]

/-! ## The reader -/

/-- The texts that so many reads pass on, and the reader after them. -/
def Reader.readTimes : (reads : Nat) → Reader → List (List Char) × Reader
  | 0, r => ([], r)
  | reads + 1, r =>
    let (texts, r) := r.read
    let (more, r) := readTimes reads r
    (texts ++ more, r)

/-- What a reader has passed on of some bytes, and how it is left before later deliveries. -/
structure Reader.Passed (bs : Bytes) (later : List Delivery) (texts : List (List Char))
    (r : Reader) : Prop where
  reader : r = { deliveries := later, held := Utf8.undecided bs }
  text : texts.flatten = Utf8.decided bs
  some : ∀ text ∈ texts, text ≠ []
  pieces : texts.length + r.held.length ≤ bs.length

theorem Reader.passed_readTimes (reads : List Bytes) (later : List Delivery) {held : Bytes}
    (kept : Utf8.next held = none) :
    let passed := readTimes reads.length { deliveries := reads.map .bytes ++ later, held }
    Passed (held ++ reads.flatten) later passed.1 passed.2 := by
  induction reads generalizing held with
  | nil =>
      obtain ⟨silent, left⟩ := Utf8.drain_of_next_eq_none kept
      rw [List.flatten_nil, List.append_nil]
      exact ⟨by rw [left]; rfl, silent.symm, nofun, by simp [readTimes]⟩
  | cons block reads ih =>
      let after := readTimes reads.length
        { deliveries := reads.map .bytes ++ later, held := Utf8.undecided (held ++ block) }
      have rest : Passed (Utf8.undecided (held ++ block) ++ reads.flatten) later after.1 after.2 :=
        ih (Utf8.next_drain (held ++ block))
      obtain ⟨text, left⟩ := Utf8.decided_append (held ++ block) reads.flatten
      have pieces := Utf8.length_drain_le (held ++ block)
      change Passed _ later ((Utf8.drain (held ++ block)).1 ++ after.1) after.2
      rw [List.flatten_cons, ← List.append_assoc]
      refine ⟨?_, ?_, fun text member => ?_, ?_⟩
      · rw [left]
        exact rest.reader
      · rw [text, List.flatten_append, rest.text]
        rfl
      · rcases List.mem_append.mp member with here | later
        · exact Utf8.ne_nil_of_mem_drain here
        · exact rest.some text later
      · have more := rest.pieces
        simp only [List.length_append, Utf8.undecided] at more pieces ⊢
        omega

/-- The peer may cut its bytes into reads in any way. After every read the reader has passed on
pieces that are not empty, one for each byte at most, and together they are the text of all bytes so
far but for those that it holds: one U+FFFD stands in the place of each malformed sequence. It holds
the bytes at the end that only begin a character, three at most, and if the stream ends there it
passes on nothing more. -/
theorem Reader.passes_on_text (reads : List Bytes) (later : List Delivery) :
    let passed := readTimes reads.length { deliveries := reads.map .bytes ++ later }
    let held := passed.2.held
    (∀ text ∈ passed.1, text ≠ []) ∧ passed.1.length + held.length ≤ reads.flatten.length ∧
      (∀ text left, Utf8.Decodes reads.flatten text left ↔
        text = passed.1.flatten ∧ left = held) ∧
      (∃ whole, reads.flatten = whole ++ held ∧ Utf8.lossy whole = passed.1.flatten) ∧
      Utf8.Begins held ∧ held.length ≤ 3 ∧
      (∀ whole part, reads.flatten = whole ++ part → Utf8.Begins part → part ≠ [] →
        part = held) ∧
      passed.2 = { deliveries := later, held } ∧
      ∀ rest, later = .endOfStream :: rest →
        passed.2.read = ([], { deliveries := rest, held, finished := true }) := by
  intro passed held
  have done : Passed reads.flatten later passed.1 passed.2 :=
    passed_readTimes reads later Utf8.next_nil
  have kept : held = Utf8.undecided reads.flatten := congrArg Reader.held done.reader
  have begins : Utf8.Begins held := kept ▸ Utf8.begins_undecided reads.flatten
  have left : passed.2 = { deliveries := later, held } := by
    rw [kept]
    exact done.reader
  refine ⟨done.some, done.pieces, fun text rest => ?_, ?_, begins, begins.length_le, ?_, left, ?_⟩
  · rw [Utf8.decodes_iff, done.text, kept]
  · rw [kept, done.text]
    exact Utf8.exists_lossy_eq_decided reads.flatten
  · intro whole part split begins some
    rw [kept, split]
    exact (Utf8.decided_append_begins whole begins some).2.symm
  · rintro rest rfl
    have silent : Utf8.next held = none := kept ▸ Utf8.next_drain reads.flatten
    rw [left]
    simp [Reader.read, silent]

/-- A character that is cut in two, and one that stops after its second byte. -/
example :
    Reader.readTimes 3
        { deliveries := [[0xE2, 0x82], [0xAC, 0xF0, 0x90], [0x41]].map .bytes } =
      (["€".toList, ['\uFFFD'], "A".toList], { deliveries := [] }) := by
  decide +kernel

/-- What a reader has still to pass on: the text of the bytes that it holds and has not read yet.
Once the stream has ended nothing is held back. -/
inductive Reader.Owes : Reader → List Char → Prop where
  | reading {held : Bytes} {reads : List Bytes} (kept : Utf8.next held = none)
      (whole : Utf8.undecided (held ++ reads.flatten) = []) :
      Owes { deliveries := reads.map .bytes ++ [.endOfStream], held }
        (Utf8.decided (held ++ reads.flatten))
  | finished : Owes { finished := true } []

theorem Reader.Owes.read {r : Reader} {coming : List Char} (h : r.Owes coming) :
    ∃ rest, coming = r.read.1.flatten ++ rest ∧ r.read.2.Owes rest := by
  cases h with
  | finished => exact ⟨[], rfl, .finished⟩
  | @reading held reads kept whole =>
      cases reads with
      | nil =>
          obtain ⟨silent, left⟩ := Utf8.drain_of_next_eq_none kept
          rw [List.flatten_nil, List.append_nil] at whole ⊢
          obtain rfl : held = [] := left.symm.trans whole
          refine ⟨[], ?_, ?_⟩
          · simp [Reader.read, silent]
          · simpa [Reader.read, kept] using Reader.Owes.finished
      | cons block reads =>
          rw [List.flatten_cons, ← List.append_assoc] at whole ⊢
          obtain ⟨text, left⟩ := Utf8.decided_append (held ++ block) reads.flatten
          rw [left] at whole
          exact ⟨_, text, .reading (Utf8.next_drain _) whole⟩

/-- With every read the end of the stream comes closer, and the reader finishes there. -/
theorem Reader.Owes.finished_iff {r : Reader} {coming : List Char} (h : r.Owes coming) :
    r.finished ↔ r.deliveries = [] := by
  cases h <;> simp

theorem Reader.Owes.eq_nil_of_finished {r : Reader} {coming : List Char} (h : r.Owes coming)
    (done : r.finished) : coming = [] := by
  cases h with
  | finished => rfl
  | reading => cases done

theorem Reader.Owes.held_of_finished {r : Reader} {coming : List Char} (h : r.Owes coming)
    (done : r.finished) : r.held = [] := by
  cases h with
  | finished => rfl
  | reading => cases done

theorem Reader.length_deliveries_read (r : Reader) :
    r.read.2.deliveries.length = r.deliveries.length - 1 := by
  unfold Reader.read
  split
  · simp_all
  · simp_all
  · split <;> simp_all
  · simp_all

theorem length_deliveries_move_le (c : Channel) (m : Move) :
    (c.move m).reader.deliveries.length ≤ c.reader.deliveries.length := by
  cases m with
  | read =>
      change c.reader.read.2.deliveries.length ≤ _
      rw [Reader.length_deliveries_read]
      exact Nat.sub_le _ _
  | take =>
      rw [Channel.move]
      split <;> exact Nat.le_refl _
  | stopReading => exact Nat.le_refl _
  | write => exact Nat.le_refl _
  | flush => exact Nat.le_refl _
  | stopWriting => exact Nat.le_refl _

/-- A channel on which some texts have arrived, and whose reader has to pass on some more. -/
structure Carries (c : Channel) (texts : List (List Char)) (coming : List Char) : Prop
    extends c.Holds texts where
  owes : c.reader.Owes coming

theorem carries_ofReads {reads : List Bytes} (whole : Utf8.undecided reads.flatten = []) :
    (ofReads reads).Carries [] (Utf8.decided reads.flatten) where
  connected := rfl
  incoming := rfl
  owes := .reading Utf8.next_nil whole

/-- A move in the background passes on what was coming, in order. -/
theorem Carries.move {c : Channel} {texts : List (List Char)} {coming : List Char}
    (h : c.Carries texts coming) {m : Move} (can : c.enabled m) :
    ∃ new rest, coming = new.flatten ++ rest ∧ (c.move m).Carries (texts ++ new) rest := by
  have connected := h.connected
  simp only [isConnected, Bool.and_eq_true, Bool.not_eq_true'] at connected
  have stay : coming = ([] : List (List Char)).flatten ++ coming := rfl
  cases m with
  | read =>
      obtain ⟨rest, split, owes⟩ := h.owes.read
      refine ⟨c.reader.read.1, rest, split, ⟨⟨h.connected, ?_⟩, owes⟩⟩
      simp [Channel.move, connected, h.incoming]
  | stopReading => simp [enabled, connected] at can
  | take =>
      refine ⟨[], coming, stay, ?_⟩
      rw [List.append_nil, Channel.move]
      split
      · exact h
      · exact ⟨⟨h.connected, h.incoming⟩, h.owes⟩
  | write => exact ⟨[], coming, stay, ⟨⟨h.connected, by simp [Channel.move, h.incoming]⟩, h.owes⟩⟩
  | flush => exact ⟨[], coming, stay, ⟨⟨h.connected, by simp [Channel.move, h.incoming]⟩, h.owes⟩⟩
  | stopWriting => simp [enabled, connected] at can

/-- After the end of the stream nothing arrives any more. -/
theorem move_of_finished {c : Channel} {m : Move} (can : c.enabled m) (done : c.reader.finished) :
    (c.move m).reader.finished ∧ (c.move m).incoming = c.incoming := by
  cases m with
  | read => simp [enabled, done] at can
  | stopReading => simp [enabled, done] at can
  | take =>
      rw [Channel.move]
      split <;> exact ⟨done, rfl⟩
  | write => exact ⟨done, rfl⟩
  | flush => exact ⟨done, rfl⟩
  | stopWriting => exact ⟨done, rfl⟩

end RLanguageHost.Channel
