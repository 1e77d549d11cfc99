import RLanguageHost.Proofs.Client.Calls

/-!
# What is written after a farewell

All along a farewell the writer is on its way through the frames that were accepted (`Steady`), and
the last of them is the notification to exit once the shutdown has returned. The writer ends only
when it sees the cancellation, so all frames are written exactly if it is `Patient`
(`all_written_iff`).

The writer can always go on to the end of the message that it took (`Steady.exists_idle`). Once the
client is closed it may then end or take the next message. So it may still write all that is queued,
and it may as well leave it (`both_endings_possible`).
-/

namespace RLanguageHost.Client.Farewell

variable {s : Farewell}

inductive Effect (s : Farewell) : Turn → Farewell → Prop where
  | nothing (t : Turn) : s.Effect t s
  | moved {move : Channel.Move} (can : s.client.channel.enabled move) :
      s.Effect (.background move) (s.onChannel (s.client.channel.move move))
  | delivered (deliveries : List Channel.Delivery) :
      s.Effect (.delivered deliveries) (s.onChannel (s.client.channel.deliver deliveries))
  /-- A call sends nothing. If it is the shutdown, it waits or fails. -/
  | kept {t : Turn} {client : Client} (kept : s.client.Keeps client) {stage : Stage}
      (still : stage = s.stage ∨ stage ≠ .granted ∧ stage ≠ .closed) :
      s.Effect t { s with client, stage }
  /-- A call sends a message, the notification to exit if the shutdown returns with it. -/
  | sent {t : Turn} {before client : Client} {message : Json} (running : s.stage ≠ .closed)
      (kept : s.client.Keeps before) (sent : before.send message = .ok client) {stage : Stage}
      (told : stage = .granted → message = notification exitMethod none)
      (remains : stage ≠ .closed) :
      s.Effect t { client, stage, accepted := s.accepted ++ [frameOf message] }
  | closed (granted : s.stage = .granted) :
      s.Effect .close { s with client := s.client.close, stage := .closed }

theorem effect_ask (s : Farewell) : s.Effect .ask (s.turn .ask) := by
  have numbered : s.client.Keeps { s.client with nextId := s.client.nextId + 1 } :=
    ⟨s.client.channel.incoming, rfl⟩
  rw [turn]
  rcases s.client.sendRequest_cases shutdownMethod none with ⟨client, sent, ended⟩ | ⟨e, _, ended⟩
  · rw [ended]
    split
    · next talks ended =>
      cases ended
      exact .sent (by rw [talks]; nofun) numbered sent nofun nofun
    · next ended => cases ended
    · exact .nothing _
  · rw [ended]
    split
    · next ended => cases ended
    · next ended =>
      cases ended
      exact .kept numbered (.inr ⟨nofun, nofun⟩)
    · exact .nothing _

/-- Whichever way the shutdown looks for the answer, it ends that look in the same ways. -/
theorem effect_looked {awaited : Attempt Error Json × Client} (kept : s.client.Keeps awaited.2)
    (running : s.stage ≠ .closed) (t : Turn) (id : String) :
    s.Effect t (s.looked id (concludeShutdown awaited)) := by
  have ended := concludeShutdown_cases kept
  generalize concludeShutdown awaited = concluded at ended
  obtain ⟨outcome, client⟩ := concluded
  rcases ended with ⟨before, kept, sent, rfl⟩ | ⟨kept, unsent⟩
  · exact .sent running kept sent (fun _ => rfl) nofun
  · cases outcome with
    | done => exact absurd rfl unsent
    | failed | waiting => exact .kept kept (.inr ⟨nofun, nofun⟩)

theorem effect_look (s : Farewell) (sight : Channel.Sight) :
    s.Effect (.look sight) (s.turn (.look sight)) := by
  rw [turn]
  split
  · next id asked =>
    exact effect_looked (s.client.keeps_awaitAnswer id) (by rw [asked]; nofun) _ id
  · next id waits =>
    exact effect_looked (s.client.keeps_resumeAnswer sight id) (by rw [waits]; nofun) _ id
  · exact .nothing _

theorem effect_turn (s : Farewell) (t : Turn) : s.Effect t (s.turn t) := by
  cases t with
  | background move =>
      rw [turn]
      split
      · next can => exact .moved can
      · exact .nothing _
  | delivered deliveries => exact .delivered deliveries
  | send message =>
      rw [turn]
      split
      · next talks sent =>
        have running : s.stage ≠ .closed := by rw [talks]; nofun
        exact .sent running (.refl _) sent (by rw [talks]; nofun) running
      · exact .nothing _
  | receive =>
      rw [turn]
      split
      · exact .kept s.client.keeps_receive (.inl rfl)
      · exact .nothing _
  | ask => exact s.effect_ask
  | look sight => exact s.effect_look sight
  | close =>
      rw [turn]
      split
      · next granted => exact .closed granted
      · exact .nothing _

/-! ## What holds all along -/

/-- What holds all along. After the shutdown the last frame is the notification to exit. -/
structure Steady (s : Farewell) : Prop where
  writes : s.client.channel.Writes s.accepted
  solid : ∀ frame ∈ s.accepted, frame ≠ []
  told : s.stage = .granted ∨ s.stage = .closed →
    ∃ before, s.accepted = before ++ [frameOf (notification exitMethod none)]
  cancelled : s.stage = .closed → s.client.channel.cancelled

theorem steady_start : start.Steady where
  writes := ⟨rfl, rfl, [], rfl, rfl⟩
  solid := nofun
  told := by rintro (⟨⟨⟩⟩ | ⟨⟨⟩⟩)
  cancelled := nofun

theorem solid_append {frames : List (List Char)} (solid : ∀ frame ∈ frames, frame ≠ [])
    (message : Json) : ∀ frame ∈ frames ++ [frameOf message], frame ≠ [] := by
  intro frame member
  rcases List.mem_append.mp member with old | new
  · exact solid frame old
  · rw [List.mem_singleton.mp new]
    exact frameOf_ne_nil message

theorem Steady.effect (h : s.Steady) {t : Turn} {after : Farewell} (effect : s.Effect t after) :
    after.Steady := by
  cases effect with
  | nothing => exact h
  | moved can =>
      refine ⟨h.writes.move can, h.solid, h.told, fun closed => ?_⟩
      rw [onChannel, Channel.cancelled_move]
      exact h.cancelled closed
  | delivered => exact ⟨h.writes.of_same rfl rfl, h.solid, h.told, h.cancelled⟩
  | kept kept still =>
      rcases still with rfl | ⟨ungranted, unclosed⟩
      · refine ⟨kept.writes h.writes, h.solid, h.told, fun closed => ?_⟩
        rw [kept.cancelled]
        exact h.cancelled closed
      · refine ⟨kept.writes h.writes, h.solid, ?_, fun closed => absurd closed unclosed⟩
        rintro (granted | closed)
        · exact absurd granted ungranted
        · exact absurd closed unclosed
  | sent _ kept sent told remains =>
      refine ⟨(kept.writes h.writes).send (channel_send sent), solid_append h.solid _, ?_,
        fun closed => absurd closed remains⟩
      rintro (granted | closed)
      · exact ⟨s.accepted, by rw [told granted]⟩
      · exact absurd closed remains
  | closed granted =>
      exact ⟨h.writes.of_same rfl rfl, h.solid, fun _ => h.told (.inl granted), fun _ => rfl⟩

theorem Steady.turn (h : s.Steady) (t : Turn) : (s.turn t).Steady :=
  h.effect (s.effect_turn t)

theorem Steady.run (h : s.Steady) (turns : List Turn) : (s.run turns).Steady := by
  induction turns generalizing s with
  | nil => exact h
  | cons t rest ih => exact ih (h.turn t)

/-! ## Messages that are left -/

/-- A turn leaves messages: the writer sees the cancellation while they are queued. -/
def Leaves (s : Farewell) (t : Turn) : Prop :=
  t = .background .stopWriting ∧ s.client.channel.enabled .stopWriting ∧
    s.client.channel.outgoing ≠ []

/-- None of the turns leaves messages. -/
def Patient : Farewell → List Turn → Prop
  | _, [] => True
  | s, t :: rest => ¬ s.Leaves t ∧ (s.turn t).Patient rest

/-- The writer has ended. -/
def Ended (s : Farewell) : Prop :=
  s.client.channel.writer.phase = .finished

theorem Ended.not_leaves (h : s.Ended) (t : Turn) : ¬ s.Leaves t := by
  rintro ⟨rfl, can, _⟩
  rw [Channel.enabled, h] at can
  cases can

/-- Once the writer has ended, what is queued stays. -/
theorem Ended.effect (h : s.Ended) {t : Turn} {after : Farewell} (effect : s.Effect t after) :
    after.Ended ∧ after.client.channel.outgoing = s.client.channel.outgoing := by
  cases effect with
  | nothing | delivered | closed => exact ⟨h, rfl⟩
  | moved can =>
      obtain ⟨outgoing, writer⟩ := Channel.writer_move_of_finished can h
      exact ⟨(congrArg _ writer).trans h, outgoing⟩
  | kept kept => exact ⟨(congrArg _ kept.writer).trans h, kept.outgoing⟩
  | sent _ kept sent =>
      refine absurd ?_ (Channel.send_ok (channel_send sent)).1
      exact (congrArg _ kept.writer).trans h

theorem Ended.run (h : s.Ended) (turns : List Turn) :
    (s.run turns).Ended ∧ (s.run turns).client.channel.outgoing = s.client.channel.outgoing ∧
      s.Patient turns := by
  induction turns generalizing s with
  | nil => exact ⟨h, rfl, trivial⟩
  | cons t rest ih =>
      obtain ⟨ended, stays⟩ := h.effect (s.effect_turn t)
      obtain ⟨last, later, patient⟩ := ih ended
      exact ⟨last, later.trans stays, h.not_leaves t, patient⟩

/-- The writer ends only when it sees the cancellation, and leaves the queue as it is. -/
theorem Steady.ends (h : s.Steady) (busy : ¬ s.Ended) {t : Turn} {after : Farewell}
    (effect : s.Effect t after) (ended : after.Ended) :
    t = .background .stopWriting ∧ s.client.channel.enabled .stopWriting ∧
      after.client.channel.outgoing = s.client.channel.outgoing := by
  cases effect with
  | nothing | delivered | closed => exact absurd ended busy
  | moved can =>
      obtain rfl := h.writes.eq_stopWriting can busy ended
      exact ⟨rfl, can, rfl⟩
  | kept kept => exact absurd ((congrArg _ kept.writer).symm.trans ended) busy
  | sent _ kept sent =>
      obtain ⟨_, same⟩ := Channel.send_ok (channel_send sent)
      refine absurd ((congrArg _ kept.writer).symm.trans ?_) busy
      rw [Ended, same] at ended
      exact ended

theorem Leaves.ends {t : Turn} (h : s.Leaves t) : (s.turn t).Ended := by
  obtain ⟨rfl, can, _⟩ := h
  rw [turn, if_pos can]
  rfl

/-- The writer ends with an empty queue exactly if no turn leaves messages. -/
theorem Steady.outgoing_run_eq_nil_iff (h : s.Steady) (busy : ¬ s.Ended) {turns : List Turn}
    (ended : (s.run turns).Ended) :
    (s.run turns).client.channel.outgoing = [] ↔ s.Patient turns := by
  induction turns generalizing s with
  | nil => exact absurd ended busy
  | cons t rest ih =>
      rw [Patient]
      by_cases now : (s.turn t).Ended
      · obtain ⟨-, later, patient⟩ := now.run rest
        obtain ⟨stops, can, stays⟩ := h.ends busy (s.effect_turn t) now
        rw [show (s.run (t :: rest)) = (s.turn t).run rest from rfl, later, stays,
          and_iff_left patient, Leaves]
        simp [stops, can]
      · rw [and_iff_right (mt Leaves.ends now)]
        exact ih (h.turn t) now ended

/-- When the client was closed after its shutdown and the writer has ended, the last frame that was
sent is the notification to exit, and the frames are written in order up to those that are still
queued. All of them are written exactly if the writer has not seen the cancellation while some were
queued. -/
theorem all_written_iff (turns : List Turn) (closed : (start.run turns).stage = .closed)
    (ended : (start.run turns).Ended) :
    let s := start.run turns
    (∃ before, s.accepted = before ++ [frameOf (notification exitMethod none)]) ∧
      (∃ taken, s.accepted = taken ++ s.client.channel.outgoing ∧
        s.client.channel.writer.written = taken.flatMap Utf8.encode) ∧
      (s.client.channel.writer.written = s.accepted.flatMap Utf8.encode ↔ start.Patient turns) := by
  intro s
  have steady : s.Steady := steady_start.run turns
  have patient : s.client.channel.outgoing = [] ↔ start.Patient turns :=
    steady_start.outgoing_run_eq_nil_iff nofun ended
  exact ⟨steady.told (.inr closed), steady.writes.written_of_finished ended,
    (steady.writes.written_eq_iff ended steady.solid).trans patient⟩

/-! ## What may follow the closing -/

theorem patient_append {first second : List Turn} :
    s.Patient (first ++ second) ↔ s.Patient first ∧ (s.run first).Patient second := by
  induction first generalizing s with
  | nil => exact (and_iff_right trivial).symm
  | cons t rest ih =>
      rw [List.cons_append, Patient, Patient, ih, and_assoc]
      rfl

/-- Turns that leave no messages lead from one farewell to another. -/
def Reaches (s u : Farewell) : Prop :=
  ∃ turns, s.Patient turns ∧ s.run turns = u

theorem Reaches.refl (s : Farewell) : s.Reaches s :=
  ⟨[], trivial, rfl⟩

theorem Reaches.trans (first : s.Reaches u) (second : u.Reaches v) : s.Reaches v := by
  obtain ⟨turns, patient, rfl⟩ := first
  obtain ⟨turns', patient', rfl⟩ := second
  exact ⟨turns ++ turns', patient_append.mpr ⟨patient, patient'⟩, List.foldl_append⟩

theorem reaches_turn {t : Turn} (spares : ¬ s.Leaves t) : s.Reaches (s.turn t) :=
  ⟨[t], ⟨spares, trivial⟩, rfl⟩

theorem Reaches.steady (h : s.Steady) (reached : s.Reaches u) : u.Steady := by
  obtain ⟨turns, _, rfl⟩ := reached
  exact h.run turns

theorem turn_background {move : Channel.Move} (can : s.client.channel.enabled move) :
    s.turn (.background move) = s.onChannel (s.client.channel.move move) := by
  rw [turn, if_pos can]

theorem reaches_move {move : Channel.Move} (can : s.client.channel.enabled move)
    (writes : move ≠ .stopWriting) : s.Reaches (s.onChannel (s.client.channel.move move)) := by
  rw [← turn_background can]
  refine reaches_turn fun leaves => writes ?_
  cases leaves.1
  rfl

/-- A writer has come to the end of a message, and nothing else has happened. -/
structure Idles (s u : Farewell) : Prop where
  reached : s.Reaches u
  idle : u.client.channel.writer.phase = .idle
  outgoing : u.client.channel.outgoing = s.client.channel.outgoing
  stage : u.stage = s.stage

theorem Idles.move {move : Channel.Move} (can : s.client.channel.enabled move)
    (writes : move = .write ∨ move = .flush)
    (h : (s.onChannel (s.client.channel.move move)).Idles u) : s.Idles u := by
  refine ⟨.trans (reaches_move can ?_) h.reached, h.idle, h.outgoing.trans ?_, h.stage⟩
  · rcases writes with rfl | rfl <;> simp
  · rcases writes with rfl | rfl <;> rfl

theorem Steady.exists_idle_of_flushing (h : s.Steady)
    (phase : s.client.channel.writer.phase = .flushing) : ∃ u, s.Idles u := by
  have can : s.client.channel.enabled .flush := decide_eq_true phase
  refine ⟨_, .move can (.inr rfl) ⟨.refl _, ?_, rfl, rfl⟩⟩
  rw [onChannel, Channel.move, if_pos h.writes.flushes]

theorem phase_write {rest : Bytes} (h : s.Steady)
    (phase : s.client.channel.writer.phase = .writing rest) :
    s.client.channel.enabled .write ∧ (s.client.channel.move .write).writer.phase =
      if rest = [] then .flushing else .writing [] := by
  refine ⟨by rw [Channel.enabled, phase], ?_⟩
  rw [Channel.move, Channel.Writer.write, phase, h.writes.unlimited]
  dsimp only
  split <;> rfl

theorem Steady.exists_idle_of_written (h : s.Steady)
    (phase : s.client.channel.writer.phase = .writing []) : ∃ u, s.Idles u := by
  obtain ⟨can, after⟩ := phase_write h phase
  obtain ⟨u, idles⟩ := (h.effect (.moved can)).exists_idle_of_flushing after
  exact ⟨u, .move can (.inl rfl) idles⟩

theorem Steady.exists_idle_of_writing (h : s.Steady) {rest : Bytes}
    (phase : s.client.channel.writer.phase = .writing rest) : ∃ u, s.Idles u := by
  by_cases none : rest = []
  · exact h.exists_idle_of_written (none ▸ phase)
  · obtain ⟨can, after⟩ := phase_write h phase
    rw [if_neg none] at after
    obtain ⟨u, idles⟩ := (h.effect (.moved can)).exists_idle_of_written after
    exact ⟨u, .move can (.inl rfl) idles⟩

/-- A writer that has not ended can come to the end of the message that it took. -/
theorem Steady.exists_idle (h : s.Steady) (busy : ¬ s.Ended) : ∃ u, s.Idles u := by
  cases phase : s.client.channel.writer.phase with
  | idle => exact ⟨s, .refl s, phase, rfl, rfl⟩
  | writing rest => exact h.exists_idle_of_writing phase
  | flushing => exact h.exists_idle_of_flushing phase
  | finished => exact absurd phase busy

/-- After the client was closed a writer that waits may end. -/
theorem Steady.stop (h : s.Steady) (closed : s.stage = .closed)
    (idle : s.client.channel.writer.phase = .idle) :
    (s.turn (.background .stopWriting)).Ended ∧
      (s.client.channel.outgoing ≠ [] ↔ s.Leaves (.background .stopWriting)) := by
  have can : s.client.channel.enabled .stopWriting := by
    rw [Channel.enabled, idle, h.cancelled closed]
    rfl
  refine ⟨?_, fun queued => ⟨rfl, can, queued⟩, fun leaves => leaves.2.2⟩
  rw [turn_background can]
  rfl

/-- After the client was closed the writer may still write all that is queued. -/
theorem Steady.exists_patient (h : s.Steady) (closed : s.stage = .closed) (busy : ¬ s.Ended) :
    ∃ u, s.Reaches u ∧ u.Ended := by
  generalize queue : s.client.channel.outgoing = messages
  induction messages generalizing s with
  | nil =>
      obtain ⟨u, idles⟩ := h.exists_idle busy
      have steady := idles.reached.steady h
      obtain ⟨ended, leaves⟩ := steady.stop (idles.stage.trans closed) idles.idle
      refine ⟨_, idles.reached.trans (reaches_turn fun left => ?_), ended⟩
      exact leaves.mpr left (idles.outgoing.trans queue)
  | cons message rest ih =>
      obtain ⟨u, idles⟩ := h.exists_idle busy
      have outgoing := idles.outgoing.trans queue
      have can : u.client.channel.enabled .take := by
        rw [Channel.enabled, idles.idle, outgoing]
        rfl
      have steady := (idles.reached.steady h).effect (.moved can)
      have taken : (u.client.channel.move .take).outgoing = rest ∧
          (u.client.channel.move .take).writer.phase = .writing (Utf8.encode message) := by
        rw [Channel.move, outgoing]
        exact ⟨rfl, rfl⟩
      obtain ⟨last, reached, ended⟩ := ih steady (idles.stage.trans closed)
        (by rw [Ended, onChannel, taken.2]; simp) taken.1
      exact ⟨last, idles.reached.trans (.trans (reaches_move can (by simp)) reached), ended⟩

/-- If something is queued then, the writer may as well leave it. -/
theorem Steady.exists_leaves (h : s.Steady) (closed : s.stage = .closed) (busy : ¬ s.Ended)
    (queued : s.client.channel.outgoing ≠ []) :
    ∃ turns, (s.run turns).Ended ∧ ¬ s.Patient turns := by
  obtain ⟨u, idles⟩ := h.exists_idle busy
  have steady := idles.reached.steady h
  obtain ⟨ended, leaves⟩ := steady.stop (idles.stage.trans closed) idles.idle
  have left := leaves.mp (by rwa [idles.outgoing])
  obtain ⟨turns, _, rfl⟩ := idles.reached
  refine ⟨turns ++ [.background .stopWriting], ?_, fun patient => ?_⟩
  · rw [Farewell.run, List.foldl_append]
    exact ended
  · exact (patient_append.mp patient).2.1 left

/-- A client that is closed sends no more, so an empty queue stays empty. -/
theorem closed_turn (closed : s.stage = .closed) (t : Turn) :
    (s.turn t).stage = .closed ∧ (s.turn t).accepted = s.accepted ∧
      (s.client.channel.outgoing = [] → (s.turn t).client.channel.outgoing = []) := by
  cases t with
  | background move =>
      by_cases can : s.client.channel.enabled move
      · rw [turn_background can]
        refine ⟨closed, rfl, fun empty => ?_⟩
        cases move with
        | take =>
            rw [onChannel]
            dsimp only
            rw [Channel.move, empty]
            exact empty
        | read | stopReading | write | flush | stopWriting => exact empty
      · rw [turn, if_neg can]
        exact ⟨closed, rfl, id⟩
  | delivered deliveries => exact ⟨closed, rfl, id⟩
  | send | receive | ask | look | close =>
      rw [turn, closed]
      exact ⟨closed, rfl, id⟩

theorem closed_run (closed : s.stage = .closed) (turns : List Turn) :
    (s.run turns).stage = .closed ∧ (s.run turns).accepted = s.accepted ∧
      (s.client.channel.outgoing = [] → (s.run turns).client.channel.outgoing = []) := by
  induction turns generalizing s with
  | nil => exact ⟨closed, rfl, id⟩
  | cons t rest ih =>
      obtain ⟨stage, accepted, empty⟩ := closed_turn closed t
      obtain ⟨last, all, drained⟩ := ih stage
      exact ⟨last, all.trans accepted, drained ∘ empty⟩

/-- After the shutdown the last message in a queue that is not empty is the notification to exit. -/
theorem Steady.getLast?_outgoing (h : s.Steady) (closed : s.stage = .closed)
    (queued : s.client.channel.outgoing ≠ []) :
    s.client.channel.outgoing.getLast? = some (frameOf (notification exitMethod none)) := by
  obtain ⟨before, told⟩ := h.told (.inr closed)
  obtain ⟨taken, split, _⟩ := h.writes.taken
  have last := congrArg List.getLast? (split.symm.trans told)
  rw [List.getLast?_append, List.getLast?_concat, List.getLast?_eq_some_getLast queued] at last
  rwa [List.getLast?_eq_some_getLast queued]

/-- As long as the writer of a closed client goes on, both endings are possible: it may write all
that was sent, and it may leave the notification to exit if anything is still in the queue. -/
theorem both_endings_possible (turns : List Turn) (closed : (start.run turns).stage = .closed)
    (busy : ¬ (start.run turns).Ended) :
    let s := start.run turns
    (∃ more, (s.run more).Ended ∧
      (s.run more).client.channel.writer.written = s.accepted.flatMap Utf8.encode) ∧
    ((∃ more, (s.run more).Ended ∧ (s.run more).client.channel.outgoing.getLast? =
        some (frameOf (notification exitMethod none))) ↔
      s.client.channel.outgoing ≠ []) := by
  intro s
  have steady : s.Steady := steady_start.run turns
  refine ⟨?_, ?_, ?_⟩
  · obtain ⟨_, ⟨more, patient, rfl⟩, ended⟩ := steady.exists_patient closed busy
    have later := steady.run more
    have empty := (steady.outgoing_run_eq_nil_iff busy ended).mpr patient
    refine ⟨more, ended, ?_⟩
    rw [(later.writes.written_eq_iff ended later.solid).mpr empty, (closed_run closed more).2.1]
  · rintro ⟨more, _, left⟩ empty
    rw [(closed_run closed more).2.2 empty] at left
    cases left
  · intro queued
    obtain ⟨more, ended, impatient⟩ := steady.exists_leaves closed busy queued
    have left := mt (steady.outgoing_run_eq_nil_iff busy ended).mp impatient
    exact ⟨more, ended, (steady.run more).getLast?_outgoing (closed_run closed more).1 left⟩

/-! ## A server that answers -/

/-- What a server answers to the first request. -/
def answerText : List Char :=
  "\x7b\"id\":\"r-lsp-launcher/1\",\"result\":null\x7d".toList

theorem answerText_answers : ∃ answer, Json.parse (String.ofList answerText) = .ok answer ∧
    answers answer "r-lsp-launcher/1" ∧ reported? answer = none := by
  obtain ⟨answer, parsed, checked⟩ := exists_parse_of_any
    (show (Json.parse (String.ofList answerText)).toOption.any fun answer =>
      answers answer "r-lsp-launcher/1" && (reported? answer).isNone by decide +kernel)
  rw [Bool.and_eq_true, Option.isNone_iff_eq_none] at checked
  exact ⟨answer, parsed, checked⟩

/-- What happens until the answer has arrived. -/
def answering : List Turn :=
  [.ask, .background .take, .background .write, .background .write, .background .flush,
    .delivered [.bytes (Utf8.encode (Frame.frame answerText))], .background .read]

def requestFrame : List Char :=
  frameOf (request "r-lsp-launcher/1" shutdownMethod none)

def exitFrame : List Char :=
  frameOf (notification exitMethod none)

/-- A farewell whose shutdown has just returned: the request is written and the notification to exit
is queued. -/
def granted : Farewell where
  client :=
    { channel := { outgoing := [exitFrame], writer := { written := Utf8.encode requestFrame } }
      nextId := 2 }
  stage := .granted
  accepted := [requestFrame, exitFrame]

/-- The same farewell when it has still to look at the answer. -/
def answered : Farewell where
  client :=
    { channel :=
        { incoming := [.text (Frame.frame answerText)]
          writer := { written := Utf8.encode requestFrame } }
      nextId := 2 }
  stage := .asked "r-lsp-launcher/1"
  accepted := [requestFrame]

theorem run_answering : start.run answering = answered := by
  have channel : (start.run answering).client.channel = answered.client.channel := by
    decide +kernel
  have rest : start.run answering =
      answered.onChannel (start.run answering).client.channel := rfl
  rw [rest, channel]
  rfl

theorem look_answered (sight : Channel.Sight) : answered.turn (.look sight) = granted := by
  obtain ⟨answer, parsed, answers, grants⟩ := answerText_answers
  have holds : answered.client.channel.Holds [Frame.frame answerText] := ⟨rfl, rfl⟩
  have received := receive_frame rfl holds (by decide +kernel) parsed
  have looked : answered.client.finishShutdown "r-lsp-launcher/1" = (.done (), granted.client) :=
    finishShutdown_of_answer received answers grants rfl
  rw [turn]
  dsimp only [answered] at looked ⊢
  rw [looked]
  rfl

theorem run_look (turns : List Turn) :
    start.run (answering ++ .look .arrival :: turns) = granted.run turns := by
  rw [run, List.foldl_append]
  change run (turn (start.run answering) (.look .arrival)) turns = _
  rw [run_answering, look_answered]

/-- The writer takes the notification to exit before it sees the cancellation. -/
theorem all_written_iff_in_time :
    let turns := answering ++ [.look .arrival, .close, .background .take, .background .write,
      .background .write, .background .flush, .background .stopWriting]
    let s := start.run turns
    s.stage = .closed ∧ s.Ended ∧ s.accepted = [requestFrame, exitFrame] ∧
      s.client.channel.writer.written = s.accepted.flatMap Utf8.encode ∧ start.Patient turns := by
  intro turns
  have reads : start.run turns = granted.run [.close, .background .take, .background .write,
      .background .write, .background .flush, .background .stopWriting] := run_look _
  have closed : (start.run turns).stage = .closed := by rw [reads]; rfl
  have ended : (start.run turns).Ended := by rw [reads]; rfl
  have accepted : (start.run turns).accepted = [requestFrame, exitFrame] := by rw [reads]; rfl
  have written : (start.run turns).client.channel.writer.written =
      (start.run turns).accepted.flatMap Utf8.encode := by
    rw [reads]
    decide +kernel
  obtain ⟨_, _, all⟩ := all_written_iff turns closed ended
  exact ⟨closed, ended, accepted, written, all.mp written⟩

/-- The writer sees the cancellation first. The shutdown returned well and the client was closed
after it, but the notification to exit stays in the queue. -/
theorem exit_left_behind :
    let s := start.run (answering ++ [.look .arrival, .close, .background .stopWriting])
    s.stage = .closed ∧ s.Ended ∧ s.accepted = [requestFrame, exitFrame] ∧
      s.client.channel.writer.written = Utf8.encode requestFrame ∧
      s.client.channel.writer.written ≠ s.accepted.flatMap Utf8.encode := by
  intro s
  have reads : s = granted.run [.close, .background .stopWriting] := run_look _
  rw [reads]
  exact ⟨rfl, rfl, rfl, rfl, by decide +kernel⟩

/-- Right after the closing the notification to exit may be written and may be left. -/
theorem both_endings_possible_at_closing :
    let turns := answering ++ [.look .arrival, .close]
    let s := start.run turns
    s.stage = .closed ∧ ¬ s.Ended ∧
      (∃ more, (s.run more).Ended ∧
        (s.run more).client.channel.writer.written = s.accepted.flatMap Utf8.encode) ∧
      ∃ more, (s.run more).Ended ∧
        (s.run more).client.channel.outgoing.getLast? = some exitFrame := by
  intro turns s
  have reads : start.run turns = granted.run [.close] := run_look _
  have closed : (start.run turns).stage = .closed := by rw [reads]; rfl
  have busy : ¬ (start.run turns).Ended := fun ended => by rw [reads] at ended; cases ended
  have queued : (start.run turns).client.channel.outgoing ≠ [] := by
    rw [reads, show (granted.run [.close]).client.channel.outgoing = [exitFrame] from rfl]
    exact List.cons_ne_nil _ _
  obtain ⟨writes, leaves⟩ := both_endings_possible turns closed busy
  rw [exitFrame]
  exact ⟨closed, busy, writes, leaves.mpr queued⟩

end RLanguageHost.Client.Farewell
