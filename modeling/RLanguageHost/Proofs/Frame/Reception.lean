import RLanguageHost.Proofs.Frame.Receiving

/-!
# Receiving while the channel works

`Delivers` is the invariant: the calls so far have given the first bodies, and what the reader, the
channel and the receiver hold together amounts to the others. Each kind of turn keeps it, hence
every run does, and `receive_frames` reads off what the calls give.
-/

namespace RLanguageHost.Frame

namespace Reception

/-- What the call with a number is to give, counted from zero: a body, or after the last one that
the channel is disconnected. -/
def due (bodies : List (List Char)) (call : Nat) : Except Error (List Char) :=
  match bodies[call]? with
  | some body => .ok body
  | none => .error (.channel .disconnected)

/-- The calls so far have given the first bodies in order, and all others can still be given. Once
a call has come after the last body, the stream has ended and nothing more arrives. -/
structure Delivers (bodies : List (List Char)) (s : Reception) : Prop where
  results : s.results = (List.range s.results.length).map (due bodies)
  clean : s.receiver.IsClean
  pending : ∃ texts coming, s.channel.Carries texts coming ∧
    s.receiver.outstanding (texts.flatten ++ coming) = (bodies.drop s.results.length, [], none)
  ended : bodies.length < s.results.length →
    s.channel.reader.finished ∧ s.channel.incoming = []

/-- It does not matter by which bytes the text of the frames comes. -/
theorem delivers_of_decided {bodies : List (List Char)} {reads : List Bytes}
    (small : ∀ body ∈ bodies, byteLength body ≤ maxLength)
    (whole : Utf8.undecided reads.flatten = [])
    (said : Utf8.decided reads.flatten = bodies.flatMap frame) :
    Delivers bodies (start reads) where
  results := rfl
  clean := rfl
  pending := by
    refine ⟨[], bodies.flatMap frame, said ▸ Channel.carries_ofReads whole, ?_⟩
    change ([] ++ (Receiver.split (bodies.flatMap frame)).1,
      (Receiver.split (bodies.flatMap frame)).2) = (bodies, [], none)
    rw [Receiver.split_frames small]
    rfl
  ended := by simp [start]

theorem delivers_start {bodies : List (List Char)} {reads : List Bytes}
    (small : ∀ body ∈ bodies, byteLength body ≤ maxLength)
    (cut : reads.flatten = Utf8.encode (bodies.flatMap frame)) :
    Delivers bodies (start reads) := by
  obtain ⟨said, whole⟩ := Utf8.decided_encode (bodies.flatMap frame)
  rw [← cut] at said whole
  exact delivers_of_decided small whole said

theorem Delivers.background {bodies : List (List Char)} {s : Reception} (h : Delivers bodies s)
    (move : Channel.Move) : Delivers bodies (s.turn (.background move)) := by
  rw [turn]
  split
  · next can =>
    obtain ⟨texts, coming, carries, account⟩ := h.pending
    obtain ⟨new, rest, rfl, carries'⟩ := carries.move can
    refine ⟨h.results, h.clean, ⟨texts ++ new, rest, carries', ?_⟩, ?_⟩
    · rw [List.flatten_append, List.append_assoc]
      exact account
    · intro beyond
      obtain ⟨finished, empty⟩ := h.ended beyond
      obtain ⟨finished', same⟩ := Channel.move_of_finished can finished
      exact ⟨finished', same.trans empty⟩
  · exact h

/-- A call has ended with the result that is due. -/
theorem Delivers.push {bodies : List (List Char)} {s : Reception} (h : Delivers bodies s)
    {receiver : Receiver} {channel : Channel} {result : Except Error (List Char)}
    {texts : List (List Char)} {coming : List Char}
    (next : due bodies s.results.length = result) (clean : receiver.IsClean)
    (carries : channel.Carries texts coming)
    (account : receiver.outstanding (texts.flatten ++ coming) =
      (bodies.drop (s.results.length + 1), [], none))
    (ended : bodies.length ≤ s.results.length →
      channel.reader.finished ∧ channel.incoming = []) :
    Delivers bodies { receiver, channel, results := s.results ++ [result] } where
  results := by
    rw [List.length_append, List.length_singleton, List.range_succ, List.map_append, ← h.results,
      List.map_singleton, next]
  clean := clean
  pending := ⟨texts, coming, carries, by simpa using account⟩
  ended := fun beyond => ended (Nat.le_of_lt_succ (by simpa using beyond))

theorem Delivers.call {bodies : List (List Char)} {s : Reception} (h : Delivers bodies s) :
    Delivers bodies (s.turn .call) := by
  obtain ⟨texts, coming, carries, account⟩ := h.pending
  have outcome := Receiver.received (r := s.receiver) carries.toHolds
  rw [turn]
  generalize s.receiver.receive s.channel = after at outcome
  cases outcome with
  | @message message r' c' rest stays clean accounted =>
      subst stays
      rw [accounted] at account
      obtain ⟨first, last⟩ := Prod.mk.inj account
      have here : bodies[s.results.length]? = some message := by
        rw [← List.head?_drop, ← first]
        rfl
      refine h.push (by rw [due, here]) (clean h.clean)
        ⟨⟨carries.connected, rfl⟩, carries.owes⟩ ?_ ?_
      · rw [← List.tail_drop, ← first, ← last]
        rfl
      · intro beyond
        exact absurd (List.getElem?_eq_some_iff.mp here).1 (Nat.not_lt.mpr beyond)
  | @waiting r' c' stays clean empty reading accounted =>
      subst stays
      rw [accounted] at account
      refine ⟨h.results, clean h.clean,
        ⟨[], coming, ⟨⟨carries.connected, rfl⟩, carries.owes⟩, account⟩, ?_⟩
      intro beyond
      exact absurd (h.ended beyond).1 (by simp [reading])
  | @disconnected r' c' stays clean empty done accounted =>
      subst stays
      obtain rfl : coming = [] := carries.owes.eq_nil_of_finished done
      rw [accounted, Receiver.outstanding_nil (clean h.clean), empty] at account
      obtain ⟨drained, last⟩ := Prod.mk.inj account
      have beyond : bodies.length ≤ s.results.length := List.drop_eq_nil_iff.mp drained.symm
      have nothing : bodies[s.results.length]? = none := List.getElem?_eq_none beyond
      have idle : Channel.Carries { s.channel with incoming := [] } [] [] :=
        ⟨⟨carries.connected, rfl⟩, carries.owes⟩
      refine h.push (by rw [due, nothing]) (clean h.clean) idle ?_ fun _ => ⟨done, rfl⟩
      rw [List.flatten_nil, List.nil_append, Receiver.outstanding_nil (clean h.clean), empty, last,
        List.drop_eq_nil_of_le (Nat.le_succ_of_le beyond)]
  | @fault e r' c' rest stays faulty =>
      have faulty := faulty coming
      rw [account] at faulty
      cases faulty

theorem Delivers.run {bodies : List (List Char)} {s : Reception} (h : Delivers bodies s)
    (turns : List Turn) : Delivers bodies (s.run turns) := by
  induction turns generalizing s with
  | nil => exact h
  | cons turn turns ih =>
      cases turn with
      | background move => exact ih (h.background move)
      | call => exact ih h.call

/-- When a call has come after the last body, the receiver and the reader hold nothing. -/
theorem Delivers.eq_empty {bodies : List (List Char)} {s : Reception} (h : Delivers bodies s)
    (beyond : bodies.length < s.results.length) :
    s.receiver = {} ∧ s.channel.reader.held = [] := by
  obtain ⟨texts, coming, carries, account⟩ := h.pending
  obtain ⟨done, empty⟩ := h.ended beyond
  obtain rfl : coming = [] := carries.owes.eq_nil_of_finished done
  obtain rfl : texts = [] := by simpa [carries.incoming] using empty
  rw [List.flatten_nil, List.nil_append, Receiver.outstanding_nil h.clean,
    List.drop_eq_nil_of_le (Nat.le_of_lt beyond)] at account
  obtain ⟨queue, buffer, -⟩ : s.receiver.queue = [] ∧ s.receiver.buffer = [] ∧ True := by
    simpa using account
  exact ⟨by rw [← queue, ← buffer], carries.owes.held_of_finished done⟩

/-! ## Calls return -/

/-- Once the reader has come to the end of the stream, a call returns. -/
theorem Delivers.length_results_call {bodies : List (List Char)} {s : Reception}
    (h : Delivers bodies s) (done : s.channel.reader.finished) :
    (s.turn .call).results.length = s.results.length + 1 := by
  obtain ⟨texts, coming, carries, -⟩ := h.pending
  have outcome := Receiver.received (r := s.receiver) carries.toHolds
  rw [turn]
  generalize s.receiver.receive s.channel = after at outcome
  cases outcome with
  | message => simp [record]
  | waiting _ _ _ reading => simp [reading] at done
  | disconnected => simp [record]
  | fault => simp [record]

theorem Delivers.reader_call {bodies : List (List Char)} {s : Reception} (h : Delivers bodies s) :
    (s.turn .call).channel.reader = s.channel.reader := by
  obtain ⟨texts, coming, carries, -⟩ := h.pending
  have outcome := Receiver.received (r := s.receiver) carries.toHolds
  rw [turn]
  generalize s.receiver.receive s.channel = after at outcome
  cases outcome with
  | message stays => rw [record, stays]
  | waiting stays => rw [record, stays]
  | disconnected stays => rw [record, stays]
  | fault stays => rw [record, stays]

theorem Delivers.length_deliveries_run_le {bodies : List (List Char)} {s : Reception}
    (h : Delivers bodies s) (turns : List Turn) :
    (s.run turns).channel.reader.deliveries.length ≤ s.channel.reader.deliveries.length := by
  induction turns generalizing s with
  | nil => exact Nat.le_refl _
  | cons turn turns ih =>
      cases turn with
      | background move =>
          refine Nat.le_trans (ih (h.background move)) ?_
          rw [Reception.turn]
          split
          · exact Channel.length_deliveries_move_le _ _
          · exact Nat.le_refl _
      | call =>
          have rest := ih h.call
          rw [h.reader_call] at rest
          exact rest

theorem Delivers.finished_iff {bodies : List (List Char)} {s : Reception} (h : Delivers bodies s) :
    s.channel.reader.finished ↔ s.channel.reader.deliveries = [] := by
  obtain ⟨texts, coming, carries, -⟩ := h.pending
  exact carries.owes.finished_iff

/-- A reader that goes on reading comes to the end of the stream. -/
theorem Delivers.finished_of_reads {bodies : List (List Char)} {s : Reception} {n : Nat}
    (h : Delivers bodies s) (enough : s.channel.reader.deliveries.length ≤ n) :
    (s.run (List.replicate n (.background .read))).channel.reader.finished := by
  induction n generalizing s with
  | zero => exact h.finished_iff.mpr (List.eq_nil_of_length_eq_zero (Nat.le_zero.mp enough))
  | succ n ih =>
      refine ih (h.background .read) ?_
      rw [turn]
      split
      · change s.channel.reader.read.2.deliveries.length ≤ n
        rw [Channel.Reader.length_deliveries_read]
        omega
      · next stuck =>
        have ended : s.channel.reader.deliveries = [] := by
          by_cases done : s.channel.reader.finished
          · exact h.finished_iff.mp done
          · simpa [Channel.enabled, done] using stuck
        simp [ended]

theorem Delivers.length_results_calls {bodies : List (List Char)} {s : Reception}
    (h : Delivers bodies s) (done : s.channel.reader.finished) (calls : Nat) :
    (s.run (List.replicate calls .call)).results.length = s.results.length + calls := by
  induction calls generalizing s with
  | zero => rfl
  | succ calls ih =>
      have step := ih h.call (by rw [h.reader_call]; exact done)
      rw [h.length_results_call done] at step
      rw [List.replicate_succ]
      exact step.trans (by omega)

theorem results_reads (s : Reception) (n : Nat) :
    (s.run (List.replicate n (.background .read))).results = s.results := by
  induction n generalizing s with
  | zero => rfl
  | succ n ih =>
      refine (ih _).trans ?_
      rw [turn]
      split <;> rfl

/-- Frames of any bodies arrive whole, in order and once each, however their bytes are cut into
reads and however the reader's work falls between the looks at the calls: the calls give the bodies,
and after the last one that the channel is disconnected, when nothing is left in any buffer. No call
waits for ever; once the reader has made its reads, as many calls return as are made. -/
theorem receive_frames {bodies : List (List Char)}
    (small : ∀ body ∈ bodies, byteLength body ≤ maxLength) {reads : List Bytes}
    (cut : reads.flatten = Utf8.encode (bodies.flatMap frame)) (turns : List Turn) :
    let s := (start reads).run turns
    s.results = (List.range s.results.length).map (due bodies) ∧
      (bodies.length < s.results.length → s.receiver = {} ∧ s.channel.reader.held = []) ∧
      ∀ calls, ((s.run (List.replicate (reads.length + 1) (.background .read))).run
          (List.replicate calls .call)).results =
        (List.range (s.results.length + calls)).map (due bodies) := by
  intro s
  have begun := delivers_start small cut
  have now : Delivers bodies s := begun.run turns
  have read := now.run (List.replicate (reads.length + 1) (.background .read))
  have done :
      (s.run (List.replicate (reads.length + 1) (.background .read))).channel.reader.finished := by
    refine now.finished_of_reads (Nat.le_trans (begun.length_deliveries_run_le turns) ?_)
    simp [start, Channel.ofReads, Channel.ofDeliveries]
  refine ⟨now.results, now.eq_empty, fun calls => ?_⟩
  have count := read.length_results_calls done calls
  rw [results_reads] at count
  rw [(read.run _).results, count]

/-- An empty body and one that holds a frame and an `é` of its own; the reads are cut within the
first header, within an empty line and within the `é`. -/
theorem receive_frames_cut_anywhere :
    let bodies := ["".toList, "é\r\n\r\nContent-Length: 1".toList]
    let reads := [bytesOf "Content-Len", bytesOf "gth: 0\r\n\r\nContent-Length: 23\r\n\r",
      [0x0A, 0xC3], 0xA9 :: bytesOf "\r\n\r\nContent-Length: 1"]
    (∀ body ∈ bodies, byteLength body ≤ maxLength) ∧
      reads.flatten = Utf8.encode (bodies.flatMap frame) ∧
      (((start reads).run (List.replicate 5 (.background .read))).run
          (List.replicate 3 .call)).results =
        [.ok "".toList, .ok "é\r\n\r\nContent-Length: 1".toList,
          .error (.channel .disconnected)] := by
  intro bodies reads
  have small : ∀ body ∈ bodies, byteLength body ≤ maxLength := by decide
  have cut : reads.flatten = Utf8.encode (bodies.flatMap frame) := by decide
  exact ⟨small, cut, (receive_frames small cut []).2.2 3⟩

end Reception

end RLanguageHost.Frame
