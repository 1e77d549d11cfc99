import RLanguageHost.Channel.Traffic
import RLanguageHost.Proofs.Text.Decoding

/-!
# What a channel writes

The writer of a channel takes the messages in the order in which they were sent. `Writes` says how
far it is over a peer that takes every byte: the first messages are written, up to what is left of
the last of them, and the others are in the queue. No move changes that, but the writer ends where
it sees a cancellation, whatever the queue holds then.

`Follows` says the same over any peer, which may take a part of a message only, or no more bytes, or
not be flushed, along whatever acts of a `Ledger`.
-/

namespace RLanguageHost.Channel

/-- What a writer has still to write of the message that it took. -/
def Writer.left (w : Writer) : Bytes :=
  match w.phase with
  | .writing rest => rest
  | .idle | .flushing | .finished => []

variable {c c' : Channel} {accepted : List (List Char)}

/-- The messages that were accepted are those that the writer took and those in the queue. The first
are written, up to what is left of the last of them. -/
def Accounts (c : Channel) (accepted : List (List Char)) : Prop :=
  ∃ taken, accepted = taken ++ c.outgoing ∧
    taken.flatMap Utf8.encode = c.writer.written ++ c.writer.left

/-- A message that is accepted is put into the queue of a writer that has not ended. -/
theorem send_ok {message : List Char} (sent : c.send message = .ok c') :
    c.writer.phase ≠ .finished ∧ c' = { c with outgoing := c.outgoing ++ [message] } := by
  rw [Channel.send] at sent
  split at sent
  · cases sent
  · split at sent
    · cases sent
    · next going =>
      cases sent
      exact ⟨fun ended => going (decide_eq_true ended), rfl⟩

theorem Accounts.send (h : c.Accounts accepted) {message : List Char}
    (sent : c.send message = .ok c') : c'.Accounts (accepted ++ [message]) := by
  obtain ⟨taken, split, written⟩ := h
  obtain ⟨_, rfl⟩ := send_ok sent
  refine ⟨taken, ?_, written⟩
  rw [split, List.append_assoc]

theorem Accounts.take (h : c.Accounts accepted) (can : c.enabled .take) :
    (c.move .take).Accounts accepted := by
  obtain ⟨taken, split, written⟩ := h
  have idle : c.writer.phase = .idle := by
    rw [enabled, Bool.and_eq_true, decide_eq_true_iff] at can
    exact can.1
  rw [move]
  cases queue : c.outgoing with
  | nil => exact ⟨taken, split, written⟩
  | cons message rest =>
      refine ⟨taken ++ [message], ?_, ?_⟩
      · rw [split, queue, List.append_assoc]
        rfl
      · rw [Writer.left, idle, List.append_nil] at written
        rw [List.flatMap_append, written, List.flatMap_singleton]
        rfl

theorem exists_writing_of_enabled (can : c.enabled .write) :
    ∃ rest, c.writer.phase = .writing rest := by
  rw [enabled] at can
  split at can
  · next rest phase => exact ⟨rest, phase⟩
  · cases can

theorem Accounts.write (h : c.Accounts accepted) (can : c.enabled .write)
    (takes : c.writer.left ≠ [] → c.writer.room ≠ some 0) :
    (c.move .write).Accounts accepted := by
  obtain ⟨taken, split, written⟩ := h
  obtain ⟨rest, phase⟩ := exists_writing_of_enabled can
  rw [Writer.left, phase] at written takes
  rw [move, Writer.write, phase]
  dsimp only at written takes ⊢
  refine ⟨taken, split, ?_⟩
  rw [written]
  split
  · next none => rw [none, Writer.left]
  · next some =>
    split
    · rw [Writer.left, List.append_nil]
    · next full => exact absurd full (takes some)
    · rw [Writer.left, List.append_assoc, List.take_append_drop]

theorem Accounts.move (h : c.Accounts accepted) {m : Move} (can : c.enabled m)
    (takes : m = .write → c.writer.left ≠ [] → c.writer.room ≠ some 0) :
    (c.move m).Accounts accepted := by
  cases m with
  | read | stopReading => exact h
  | take => exact h.take can
  | write => exact h.write can (takes rfl)
  | flush =>
      obtain ⟨taken, split, written⟩ := h
      have phase : c.writer.phase = .flushing := of_decide_eq_true can
      rw [Writer.left, phase] at written
      refine ⟨taken, split, ?_⟩
      rw [written, Channel.move]
      cases c.writer.flushes <;> rfl
  | stopWriting =>
      obtain ⟨taken, split, written⟩ := h
      rw [enabled, Bool.and_eq_true, decide_eq_true_iff] at can
      rw [Writer.left, can.1] at written
      exact ⟨taken, split, written⟩

/-! ## A peer that takes every byte -/

/-- A channel that has accepted some messages for a peer whose writes and flushes succeed. -/
structure Writes (c : Channel) (accepted : List (List Char)) : Prop where
  unlimited : c.writer.room = none
  flushes : c.writer.flushes
  taken : ∃ taken, accepted = taken ++ c.outgoing ∧
    taken.flatMap Utf8.encode = c.writer.written ++ c.writer.left

/-- What arrives has nothing to do with what is written, nor has a cancellation that nobody has
seen. -/
theorem Writes.of_same (h : c.Writes accepted) (outgoing : c'.outgoing = c.outgoing)
    (writer : c'.writer = c.writer) : c'.Writes accepted where
  unlimited := by rw [writer]; exact h.unlimited
  flushes := by rw [writer]; exact h.flushes
  taken := by rw [outgoing, writer]; exact h.taken

/-- A peer that takes every byte does so after a move as before it. -/
theorem room_move (unlimited : c.writer.room = none) (m : Move) :
    (c.move m).writer.room = none ∧ (c.move m).writer.flushes = c.writer.flushes := by
  cases m with
  | read | stopReading | flush | stopWriting => exact ⟨unlimited, rfl⟩
  | take =>
      rw [Channel.move]
      split <;> exact ⟨unlimited, rfl⟩
  | write =>
      rw [Channel.move, Writer.write, unlimited]
      dsimp only
      split
      · split <;> exact ⟨rfl, rfl⟩
      · exact ⟨unlimited, rfl⟩

theorem Writes.move (h : c.Writes accepted) {m : Move} (can : c.enabled m) :
    (c.move m).Writes accepted := by
  obtain ⟨unlimited, flushes⟩ := room_move h.unlimited m
  have accounts : c.Accounts accepted := h.taken
  refine ⟨unlimited, flushes ▸ h.flushes, accounts.move can fun _ _ full => ?_⟩
  rw [h.unlimited] at full
  cases full

theorem Writes.send (h : c.Writes accepted) {message : List Char} (sent : c.send message = .ok c') :
    c'.Writes (accepted ++ [message]) := by
  have accounts : c.Accounts accepted := h.taken
  have sends := accounts.send sent
  obtain ⟨_, rfl⟩ := send_ok sent
  exact ⟨h.unlimited, h.flushes, sends⟩

/-! ## The end of the writer -/

theorem cancelled_move (c : Channel) (m : Move) : (c.move m).cancelled = c.cancelled := by
  cases m with
  | take =>
      rw [Channel.move]
      split <;> rfl
  | read | stopReading | write | flush | stopWriting => rfl

theorem writer_move_of_finished {m : Move} (can : c.enabled m)
    (ended : c.writer.phase = .finished) :
    (c.move m).outgoing = c.outgoing ∧ (c.move m).writer = c.writer := by
  cases m with
  | read | stopReading => exact ⟨rfl, rfl⟩
  | take | write | flush | stopWriting => simp [enabled, ended] at can

/-- Only by seeing a cancellation does the writer end. -/
theorem Writes.eq_stopWriting (h : c.Writes accepted) {m : Move} (can : c.enabled m)
    (busy : c.writer.phase ≠ .finished) (ended : (c.move m).writer.phase = .finished) :
    m = .stopWriting := by
  cases m with
  | read | stopReading => exact absurd ended busy
  | take =>
      rw [Channel.move] at ended
      split at ended
      · exact absurd ended busy
      · cases ended
  | write =>
      obtain ⟨rest, phase⟩ := exists_writing_of_enabled can
      rw [Channel.move, Writer.write, phase, h.unlimited] at ended
      dsimp only at ended
      split at ended <;> cases ended
  | flush =>
      rw [Channel.move, if_pos h.flushes] at ended
      cases ended
  | stopWriting => rfl

/-- A writer that has ended has written the messages up to those in the queue. -/
theorem Writes.written_of_finished (h : c.Writes accepted) (ended : c.writer.phase = .finished) :
    ∃ taken, accepted = taken ++ c.outgoing ∧ c.writer.written = taken.flatMap Utf8.encode := by
  obtain ⟨taken, split, written⟩ := h.taken
  rw [Writer.left, ended, List.append_nil] at written
  exact ⟨taken, split, written.symm⟩

/-- A writer that has ended has written all messages exactly if none is in the queue. -/
theorem Writes.written_eq_iff (h : c.Writes accepted) (ended : c.writer.phase = .finished)
    (solid : ∀ message ∈ accepted, message ≠ []) :
    c.writer.written = accepted.flatMap Utf8.encode ↔ c.outgoing = [] := by
  obtain ⟨taken, rfl, written⟩ := h.written_of_finished ended
  rw [written, List.flatMap_append, List.self_eq_append_right, List.flatMap_eq_nil_iff]
  constructor
  · intro silent
    rw [List.eq_nil_iff_forall_not_mem]
    intro message queued
    exact solid message (List.mem_append_right _ queued)
      (Utf8.encode_eq_nil_iff.mp (silent message queued))
  · intro none message queued
    rw [none] at queued
    cases queued

/-! ## Any peer -/

/-- How far the writer is, whatever its peer takes. It is as far as over a peer that takes every
byte, until a write fails: the rest of that message is lost. -/
structure Follows (c : Channel) (accepted : List (List Char)) : Prop where
  taken : ∃ taken lost, accepted = taken ++ c.outgoing ∧
    taken.flatMap Utf8.encode = c.writer.written ++ (c.writer.left ++ lost) ∧
      (c.writer.phase ≠ .finished → lost = [])

theorem Follows.written_prefix (h : c.Follows accepted) :
    c.writer.written <+: accepted.flatMap Utf8.encode := by
  obtain ⟨taken, lost, rfl, bytes, _⟩ := h.taken
  rw [List.flatMap_append, bytes, List.append_assoc]
  exact List.prefix_append _ _

theorem Follows.of_accounts (h : c.Accounts accepted) : c.Follows accepted := by
  obtain ⟨taken, split, bytes⟩ := h
  exact ⟨taken, [], split, by rw [bytes, List.append_nil], fun _ => rfl⟩

/-- While the writer goes on, nothing is lost. -/
theorem Follows.accounts (h : c.Follows accepted) (going : c.writer.phase ≠ .finished) :
    c.Accounts accepted := by
  obtain ⟨taken, lost, split, bytes, whole⟩ := h.taken
  rw [whole going, List.append_nil] at bytes
  exact ⟨taken, split, bytes⟩

theorem Follows.written_eq (h : c.Follows accepted) (idle : c.writer.phase = .idle)
    (drained : c.outgoing = []) : c.writer.written = accepted.flatMap Utf8.encode := by
  have going : c.writer.phase ≠ .finished := by
    rw [idle]
    exact WriterPhase.noConfusion
  obtain ⟨taken, rfl, bytes⟩ := h.accounts going
  rw [drained, List.append_nil, bytes, Writer.left, idle, List.append_nil]

/-- The queue, the bytes and the phase are all that counts. -/
theorem Follows.of_same (h : c.Follows accepted) (outgoing : c'.outgoing = c.outgoing)
    (written : c'.writer.written = c.writer.written) (phase : c'.writer.phase = c.writer.phase) :
    c'.Follows accepted := by
  refine ⟨?_⟩
  rw [outgoing, written, Writer.left, phase]
  exact h.taken

theorem Follows.send (h : c.Follows accepted) {message : List Char}
    (sent : c.send message = .ok c') : c'.Follows (accepted ++ [message]) := by
  obtain ⟨taken, lost, split, bytes⟩ := h.taken
  obtain ⟨_, rfl⟩ := send_ok sent
  exact ⟨taken, lost, by rw [split, List.append_assoc], bytes⟩

theorem Follows.move (h : c.Follows accepted) {m : Move} (can : c.enabled m) :
    (c.move m).Follows accepted := by
  by_cases ended : c.writer.phase = .finished
  · obtain ⟨outgoing, writer⟩ := writer_move_of_finished can ended
    exact h.of_same outgoing (by rw [writer]) (by rw [writer])
  have accounts := h.accounts ended
  by_cases takes : m = .write → c.writer.left ≠ [] → c.writer.room ≠ some 0
  · exact .of_accounts (accounts.move can takes)
  · -- A write fails: what is left of the message is lost.
    obtain ⟨taken, split, bytes⟩ := accounts
    obtain ⟨rfl, fails⟩ := Classical.not_imp.mp takes
    obtain ⟨left, refused⟩ := Classical.not_imp.mp fails
    have full : c.writer.room = some 0 := Classical.not_not.mp refused
    obtain ⟨rest, phase⟩ := exists_writing_of_enabled can
    rw [Writer.left, phase] at bytes left
    refine ⟨taken, rest, split, ?_, fun going => absurd ?_ going⟩ <;>
      simp only [Channel.move, Writer.write, phase, if_neg left, full]
    exact bytes

/-! ## From the first message to the last -/

namespace Ledger

/-- An act at which a write or a flush fails. -/
def Fails (s : Ledger) (a : Act) : Prop :=
  (a = .background .write ∧ s.channel.writer.room = some 0 ∧
      ∃ rest, rest ≠ [] ∧ s.channel.writer.phase = .writing rest) ∨
    (a = .background .flush ∧ s.channel.writer.flushes = false ∧
      s.channel.writer.phase = .flushing)

/-- An act at which the writer sees the cancellation. -/
def Stops (s : Ledger) (a : Act) : Prop :=
  a = .background .stopWriting ∧ s.channel.enabled .stopWriting

/-- The writer waits, and nothing is queued. -/
def IsDrained (s : Ledger) : Prop :=
  s.channel.outgoing = [] ∧ s.channel.writer.phase = .idle

/-- The writer has ended. -/
def IsOver (s : Ledger) : Prop :=
  s.channel.writer.phase = .finished

/-- No write and no flush fails, and nobody disconnects the channel. -/
def Untroubled : Ledger → List Act → Prop
  | _, [] => True
  | s, a :: rest => ¬ s.Fails a ∧ ¬ a.disconnects ∧ (s.act a).Untroubled rest

variable {s : Ledger} {a : Act}

theorem run_append (s : Ledger) (before after : List Act) :
    s.run (before ++ after) = (s.run before).run after :=
  List.foldl_append

/-! ### What is written -/

theorem follows_receive {c : Channel} {accepted : List (List Char)} (h : c.Follows accepted) :
    c.receive.2.Follows accepted := by
  obtain ⟨_, same⟩ := c.receive_same
  rw [same]
  exact h.of_same rfl rfl rfl

theorem follows_act (h : s.channel.Follows s.accepted) (a : Act) :
    (s.act a).channel.Follows (s.act a).accepted := by
  cases a with
  | send message =>
      rw [act]
      split
      · next sent => exact h.send sent
      · exact h
  | receive => exact follows_receive h
  | close | cancel | drop | delivered | peer => exact h.of_same rfl rfl rfl
  | background move =>
      rw [act]
      split
      · next can => exact h.move can
      · exact h

theorem follows_run (h : s.channel.Follows s.accepted) (acts : List Act) :
    (s.run acts).channel.Follows (s.run acts).accepted := by
  induction acts generalizing s with
  | nil => exact h
  | cons a acts ih => exact ih (follows_act h a)

theorem follows_start (acts : List Act) :
    (run {} acts).channel.Follows (run {} acts).accepted :=
  follows_run ⟨[], [], rfl, rfl, fun _ => rfl⟩ acts

/-! ### The end of the writer -/

theorem writer_receive (c : Channel) : c.receive.2.writer = c.writer := by
  obtain ⟨_, same⟩ := c.receive_same
  rw [same]

theorem IsOver.act (h : s.IsOver) (a : Act) : (s.act a).IsOver ∧ (s.act a).written = s.written := by
  cases a with
  | send message =>
      rw [Ledger.act]
      split
      · next sent => exact absurd h (send_ok sent).1
      · exact ⟨h, rfl⟩
  | receive =>
      have same : (s.act .receive).channel.writer = s.channel.writer := writer_receive s.channel
      rw [IsOver, written, same]
      exact ⟨h, rfl⟩
  | close | cancel | drop | delivered | peer => exact ⟨h, rfl⟩
  | background move =>
      rw [Ledger.act]
      split
      · next can =>
        obtain ⟨_, writer⟩ := writer_move_of_finished can h
        rw [IsOver, written, writer]
        exact ⟨h, rfl⟩
      · exact ⟨h, rfl⟩

/-- Once the writer has ended, nothing more is written. -/
theorem IsOver.run (h : s.IsOver) (acts : List Act) :
    (s.run acts).IsOver ∧ (s.run acts).written = s.written := by
  induction acts generalizing s with
  | nil => exact ⟨h, rfl⟩
  | cons a acts ih =>
      obtain ⟨isOver, written⟩ := h.act a
      obtain ⟨isOver', written'⟩ := ih isOver
      exact ⟨isOver', written'.trans written⟩

theorem Fails.isOver (h : s.Fails a) : (s.act a).IsOver ∧ (s.act a).written = s.written := by
  obtain ⟨rfl, full, rest, some, phase⟩ | ⟨rfl, broken, phase⟩ := h
  · have can : s.channel.enabled .write := by rw [enabled, phase]
    have written : s.channel.writer.write = { s.channel.writer with phase := .finished } := by
      rw [Writer.write, phase]
      dsimp only
      rw [if_neg some, full]
      rfl
    rw [act, if_pos can, move, written]
    exact ⟨rfl, rfl⟩
  · have can : s.channel.enabled .flush := decide_eq_true phase
    rw [act, if_pos can, move, broken]
    exact ⟨rfl, rfl⟩

theorem Stops.isOver (h : s.Stops a) : (s.act a).IsOver ∧ (s.act a).written = s.written := by
  obtain ⟨rfl, can⟩ := h
  rw [act, if_pos can]
  exact ⟨rfl, rfl⟩

/-- The writer ends only when a write or a flush fails or when it sees a cancellation. -/
theorem fails_or_stops (busy : ¬ s.IsOver) (isOver : (s.act a).IsOver) : s.Fails a ∨ s.Stops a := by
  cases a with
  | send message =>
      rw [act] at isOver
      split at isOver
      · next sent =>
        obtain ⟨_, rfl⟩ := send_ok sent
        exact absurd isOver busy
      · exact absurd isOver busy
  | receive =>
      have same := congrArg Writer.phase (writer_receive s.channel)
      exact absurd (same.symm.trans isOver) busy
  | close | cancel | drop | delivered | peer => exact absurd isOver busy
  | background move =>
      rw [act] at isOver
      split at isOver
      · next can =>
        cases move with
        | read | stopReading => exact absurd isOver busy
        | take =>
            rw [IsOver, Channel.move] at isOver
            split at isOver
            · exact absurd isOver busy
            · cases isOver
        | write =>
            obtain ⟨rest, phase⟩ := exists_writing_of_enabled can
            rw [IsOver, Channel.move, Writer.write, phase] at isOver
            dsimp only at isOver
            split at isOver
            · cases isOver
            · next some =>
              split at isOver
              · cases isOver
              · next full => exact .inl (.inl ⟨rfl, full, rest, some, phase⟩)
              · cases isOver
        | flush =>
            have phase : s.channel.writer.phase = .flushing := of_decide_eq_true can
            rw [IsOver, Channel.move] at isOver
            dsimp only at isOver
            split at isOver
            · cases isOver
            · next broken => exact .inl (.inr ⟨rfl, by simpa using broken, phase⟩)
        | stopWriting => exact .inr ⟨rfl, can⟩
      · exact absurd isOver busy

/-! ### Channels that nobody disconnects -/

theorem cancelled_act (a : Act) (connected : ¬ a.disconnects) :
    (s.act a).channel.cancelled = s.channel.cancelled := by
  cases a with
  | send message =>
      rw [act]
      split
      · next sent =>
        obtain ⟨_, rfl⟩ := send_ok sent
        rfl
      · rfl
  | receive =>
      obtain ⟨_, same⟩ := s.channel.receive_same
      rw [act, same]
  | close | cancel | drop => exact absurd rfl connected
  | delivered | peer => rfl
  | background move =>
      rw [act]
      split
      · exact cancelled_move s.channel move
      · rfl

/-- The writer goes on while nothing fails and nobody disconnects the channel. -/
theorem Untroubled.not_isOver {acts : List Act} (h : s.Untroubled acts) (busy : ¬ s.IsOver)
    (connected : s.channel.cancelled = false) : ¬ (s.run acts).IsOver := by
  induction acts generalizing s with
  | nil => exact busy
  | cons a acts ih =>
      obtain ⟨works, holds, later⟩ := h
      refine ih later (fun isOver => ?_) ((cancelled_act a holds).trans connected)
      rcases fails_or_stops busy isOver with fails | ⟨_, stops⟩
      · exact works fails
      · simp [enabled, connected] at stops

/-! ### Draining the queue -/

/-- The writer goes on and its peer takes every byte. -/
structure Welcomes (s : Ledger) : Prop where
  unlimited : s.channel.writer.room = none
  flushes : s.channel.writer.flushes
  busy : ¬ s.IsOver

/-- The moves by which the writer gets done with what it is at. -/
def finishing : List Move :=
  [.write, .write, .flush]

/-- What is left of a message is written, and the writer waits for the next one. -/
theorem Welcomes.finishing (h : s.Welcomes) :
    (s.run (finishing.map .background)).Welcomes ∧
      (s.run (finishing.map .background)).channel.outgoing = s.channel.outgoing ∧
        (s.run (finishing.map .background)).channel.writer.phase = .idle := by
  obtain ⟨⟨incoming, outgoing, closed, cancelled, reader, phase, bytes, room, flushes⟩,
    accepted⟩ := s
  obtain ⟨rfl, rfl, busy⟩ := h
  cases phase with
  | idle => exact ⟨⟨rfl, rfl, busy⟩, rfl, rfl⟩
  | flushing => exact ⟨⟨rfl, rfl, WriterPhase.noConfusion⟩, rfl, rfl⟩
  | writing rest =>
      cases rest with
      | nil => exact ⟨⟨rfl, rfl, WriterPhase.noConfusion⟩, rfl, rfl⟩
      | cons => exact ⟨⟨rfl, rfl, WriterPhase.noConfusion⟩, rfl, rfl⟩
  | finished => exact absurd rfl busy

theorem Welcomes.take (h : s.Welcomes) (idle : s.channel.writer.phase = .idle)
    {message : List Char} {rest : List (List Char)} (queue : s.channel.outgoing = message :: rest) :
    (s.act (.background .take)).Welcomes ∧ (s.act (.background .take)).channel.outgoing = rest := by
  have can : s.channel.enabled .take := by simp [enabled, idle, queue]
  rw [act, if_pos can, move, queue]
  exact ⟨⟨h.unlimited, h.flushes, WriterPhase.noConfusion⟩, rfl⟩

/-- A writer that goes on can get done with its queue. -/
theorem Welcomes.exists_isDrained (h : s.Welcomes) :
    ∃ moves : List Move, (s.run (moves.map .background)).IsDrained := by
  generalize queue : s.channel.outgoing = messages
  induction messages generalizing s with
  | nil =>
      obtain ⟨_, same, idle⟩ := h.finishing
      exact ⟨Ledger.finishing, same.trans queue, idle⟩
  | cons message rest ih =>
      -- The message at hand is finished, then the next one is taken.
      obtain ⟨welcomes, same, idle⟩ := h.finishing
      obtain ⟨taken, fewer⟩ := welcomes.take idle (same.trans queue)
      obtain ⟨moves, drained⟩ := ih taken fewer
      refine ⟨Ledger.finishing ++ Move.take :: moves, ?_⟩
      rw [List.map_append, run_append]
      exact drained

/-! ### Channels that are disconnected -/

theorem isConnected_of_disconnects (h : a.disconnects) :
    (s.act a).channel.isConnected = false ∧ (s.act a).accepted = s.accepted := by
  cases a with
  | close | drop => exact ⟨rfl, rfl⟩
  | cancel => exact ⟨Bool.and_false _, rfl⟩
  | send | receive | delivered | peer | background => cases h

theorem isConnected_act (h : s.channel.isConnected = false) (a : Act) :
    (s.act a).channel.isConnected = false ∧ (s.act a).accepted = s.accepted := by
  cases a with
  | send message =>
      have refused : s.channel.send message = .error .disconnected := by
        rw [Channel.send, if_pos (by rw [h]; rfl)]
      rw [act, refused]
      exact ⟨h, rfl⟩
  | receive =>
      rw [act, receive, if_pos (by rw [h]; rfl)]
      exact ⟨h, rfl⟩
  | close | cancel | drop => exact isConnected_of_disconnects rfl
  | delivered | peer => exact ⟨h, rfl⟩
  | background move =>
      rw [act]
      split
      · refine ⟨?_, rfl⟩
        cases move with
        | take =>
            rw [Channel.move]
            split <;> exact h
        | read | stopReading | write | flush | stopWriting => exact h
      · exact ⟨h, rfl⟩

theorem isConnected_run (h : s.channel.isConnected = false) (acts : List Act) :
    (s.run acts).channel.isConnected = false ∧ (s.run acts).accepted = s.accepted := by
  induction acts generalizing s with
  | nil => exact ⟨h, rfl⟩
  | cons a acts ih =>
      obtain ⟨connected, accepted⟩ := isConnected_act h a
      obtain ⟨connected', accepted'⟩ := ih connected
      exact ⟨connected', accepted'.trans accepted⟩

theorem calls_refused {c : Channel} (h : c.isConnected = false) :
    (∀ message, c.send message = .error .disconnected) ∧
      c.receive = (.failed .disconnected, c) := by
  refine ⟨fun message => ?_, ?_⟩
  · rw [Channel.send, h]
    rfl
  · rw [Channel.receive, h]
    rfl

/-! ### The order of what is written -/

/-- A writer that sees the cancellation has written whole messages, all but those in the queue. -/
theorem Stops.written_eq (h : s.Stops a) (follows : s.channel.Follows s.accepted) :
    ∃ taken, s.accepted = taken ++ s.channel.outgoing ∧
      s.written = taken.flatMap Utf8.encode := by
  obtain ⟨_, can⟩ := h
  rw [enabled, Bool.and_eq_true, decide_eq_true_iff] at can
  obtain ⟨taken, split, bytes⟩ :=
    follows.accounts (by rw [can.1]; exact WriterPhase.noConfusion)
  rw [Writer.left, can.1, List.append_nil] at bytes
  exact ⟨taken, split, bytes.symm⟩

theorem welcomes_of_busy (busy : ¬ s.IsOver) : (s.act (.peer none true)).Welcomes :=
  ⟨rfl, rfl, busy⟩

/-- Whatever is sent, received and done in the background over whatever peer, what the peer has
taken is a beginning of the messages that were accepted, in their order. It is all of them when the
queue is drained, and the queue can be drained, if nothing has failed and nobody has disconnected
the channel. After a failure, and once the writer has seen the cancellation, nothing more is
written; a writer that stops so has written whole messages. Until the writer sees the cancellation
it may go on with the queue, but nothing is added to that: every later call is refused. -/
theorem written_in_order (acts : List Act) :
    let s := run {} acts
    s.written <+: s.owed ∧
      (Untroubled {} acts → (s.IsDrained → s.written = s.owed) ∧
        ∃ moves : List Move, ((s.act (.peer none true)).run (moves.map .background)).IsDrained) ∧
      ∀ before a after, acts = before ++ a :: after →
        let b := run {} before
        (b.Fails a → s.written = b.written) ∧
        (b.Stops a → s.written = b.written ∧ ∃ taken, b.accepted = taken ++ b.channel.outgoing ∧
          b.written = taken.flatMap Utf8.encode) ∧
        (a.disconnects → s.accepted = b.accepted ∧
          (∀ message, s.channel.send message = .error .disconnected) ∧
          s.channel.receive = (.failed .disconnected, s.channel)) := by
  intro s
  have follows := follows_start acts
  refine ⟨follows.written_prefix, fun untroubled => ⟨fun drained => ?_, ?_⟩, ?_⟩
  · exact follows.written_eq drained.2 drained.1
  · have busy : ¬ s.IsOver := untroubled.not_isOver WriterPhase.noConfusion rfl
    exact (welcomes_of_busy busy).exists_isDrained
  · intro before a after split b
    have reached : s = (b.act a).run after := by
      show run {} acts = _
      rw [split, run_append]
      rfl
    rw [reached]
    refine ⟨fun fails => ?_, fun stops => ⟨?_, ?_⟩, fun disconnects => ?_⟩
    · exact (fails.isOver.1.run after).2.trans fails.isOver.2
    · exact (stops.isOver.1.run after).2.trans stops.isOver.2
    · exact stops.written_eq (follows_start before)
    · obtain ⟨gone, accepted⟩ := isConnected_of_disconnects disconnects
      obtain ⟨gone', accepted'⟩ := isConnected_run gone after
      exact ⟨accepted'.trans accepted, calls_refused gone'⟩

/-- The writer is in the middle of the first of three messages when the channel is cancelled. It
takes the second one after that, so more is written than the rest of the first. -/
theorem written_past_cancellation :
    let b := run {} [.send ['a'], .send ['b'], .send ['c'], .background .take]
    let s := b.run [.cancel, .background .write, .background .write, .background .flush,
      .background .take, .background .write, .background .write, .background .flush]
    b.channel.writer.left = Utf8.encode ['a'] ∧ s.written = Utf8.encode ['a', 'b'] ∧
      ¬ s.written <+: b.written ++ b.channel.writer.left := by
  decide +kernel

end Ledger

end RLanguageHost.Channel
