import RLanguageHost.Proofs.Client.Calls
import RLanguageHost.Proofs.Session.Stages

/-!
# Who holds the client of a session

A call that receives holds the client until it has a message or is given up. Till then a call that
sends waits, and so does a stop before it has asked the server to shut down, even if the channel
could take what they have to say at once (`goes_through_iff`).

Whatever happens meanwhile, on any machine and in any order, nothing is given to the channel:
`Withheld` is kept by every act that does not end the call. So a server that does not speak before
it is spoken to is not spoken to, and a stop whose time runs out goes on to the process without
having asked.
-/

namespace RLanguageHost

/-! ## The queue of a wire -/

namespace Channel

/-- The writer only takes messages out of the queue, the first one first. -/
theorem outgoing_move_suffix (c : Channel) (m : Move) :
    (c.move m).outgoing <:+ c.outgoing := by
  cases m with
  | take =>
      rw [move]
      split
      · exact List.suffix_rfl
      · next message rest queue =>
        rw [queue]
        exact List.suffix_cons message rest
  | read | stopReading | write | flush | stopWriting => exact List.suffix_rfl

theorem outgoing_run_suffix (fuel : Nat) (c : Channel) : (run fuel c).outgoing <:+ c.outgoing := by
  induction fuel generalizing c with
  | zero => exact List.suffix_rfl
  | succ fuel ih =>
      rw [run]
      split
      · exact List.suffix_rfl
      · next m _ => exact (ih (c.move m)).trans (c.outgoing_move_suffix m)

end Channel

/-- What happens on a wire puts nothing into its queue. -/
theorem Wire.outgoing_pump_suffix {m : Machine} {w : Wire} {after : Machine × Wire}
    (h : w.pump m = some after) : after.2.channel.outgoing <:+ w.channel.outgoing := by
  rw [pump] at h
  split at h
  · cases h
    exact (w.withPeer m).outgoing_run_suffix _
  · rcases Option.or_eq_some_iff.mp h with out | ⟨-, into⟩
    · obtain ⟨pipe, -, out⟩ := Option.bind_eq_some_iff.mp out
      dsimp only at out
      split at out
      · cases out
        exact List.suffix_rfl
      · split at out
        · cases out
          exact List.suffix_rfl
        · cases out
    · obtain ⟨pipe, -, into⟩ := Option.bind_eq_some_iff.mp into
      split at into
      · cases into
        exact List.suffix_rfl
      · split at into
        · cases into
          exact List.suffix_rfl
        · cases into
          exact List.suffix_rfl
        · cases into

namespace Session.Server

variable {s t u : Server}

/-! ## What is given to the channel -/

/-- From one state of a session to another nothing was given to the channel: no request was
numbered, and the queue holds only what it held. -/
structure Withheld (s t : Server) : Prop where
  requests : t.talk.nextId = s.talk.nextId
  queue : t.wire.channel.outgoing <:+ s.wire.channel.outgoing

theorem Withheld.refl (s : Server) : Withheld s s :=
  ⟨rfl, List.suffix_rfl⟩

theorem Withheld.trans (first : Withheld s t) (second : Withheld t u) : Withheld s u :=
  ⟨second.requests.trans first.requests, second.queue.trans first.queue⟩

/-- A call that receives holds the client, and no stop has got hold of it before. -/
structure Held (s : Server) : Prop where
  receiving : s.receiving
  unasked : ¬ s.stopping.isAsking

/-- The act ends the call that receives. -/
def Act.letsGo (s : Server) : Act → Prop
  | .receive => s.receive.1 ≠ .waiting
  | .leaveReceive => True
  | _ => False

/-- None of the acts ends the call that receives. -/
def Pending : Server → List Act → Prop
  | _, [] => True
  | s, a :: rest => ¬ a.letsGo s ∧ Pending (s.act a) rest

theorem withheld_stopProcess (m : Machine) (s : Server) : Withheld s (s.stopProcess m).2 := by
  rw [stopProcess]
  dsimp only
  split
  · exact ⟨rfl, List.suffix_rfl⟩
  · exact ⟨rfl, List.suffix_rfl⟩

theorem receiving_stopProcess (m : Machine) (s : Server) :
    (s.stopProcess m).2.receiving = s.receiving := by
  rw [stopProcess]
  dsimp only
  split <;> rfl

/-- A stop that is at the process has nothing more to ask. -/
theorem Held.stopProcess (h : s.Held) (m : Machine) :
    (s.stopProcess m).2.Held ∧ Withheld s (s.stopProcess m).2 := by
  have rank := (reaches_stopProcess m s).rank
  refine ⟨⟨(receiving_stopProcess m s).trans h.receiving, ?_⟩, withheld_stopProcess m s⟩
  cases phase : (s.stopProcess m).2.stopping with
  | asked | handshake =>
      rw [phase] at rank
      exact absurd rank (by simp [StopPhase.rank])
  | idle | queued | process | done => exact Bool.false_ne_true

theorem Held.noteExits (h : s.Held) (exits : List Exit) :
    (exits.foldl noteExit s).Held ∧ Withheld s (exits.foldl noteExit s) := by
  induction exits generalizing s with
  | nil => exact ⟨h, .refl s⟩
  | cons exit rest ih =>
      have noted : (s.noteExit exit).Held := ⟨h.receiving, h.unasked⟩
      have quiet : Withheld s (s.noteExit exit) := ⟨rfl, List.suffix_rfl⟩
      obtain ⟨held, quiet'⟩ := ih noted
      exact ⟨held, quiet.trans quiet'⟩

/-- A stop that waits for the client waits on, or gives up the handshake. -/
theorem Held.stopStep (h : s.Held) {m : Machine} {after : Machine × Server}
    (step : s.stopStep m = some after) : after.2.Held ∧ Withheld s after.2 := by
  obtain ⟨_, -, free, -⟩ | ⟨_, _, _, asking, -⟩ | ⟨_, -, -, rfl⟩ | ⟨-, rfl⟩ := stopStep_cases step
  · exact absurd h.receiving free
  · exact absurd asking h.unasked
  · exact h.stopProcess m
  · have ended : Held { s with status := s.status.write (.set .stopped), stopping := .done } :=
      ⟨h.receiving, Bool.false_ne_true⟩
    exact ⟨ended, rfl, List.suffix_rfl⟩

theorem Held.react (h : s.Held) {m : Machine} {out : Output} {after : Machine × Server × Output}
    (happens : s.react m out = some after) : after.2.1.Held ∧ Withheld s after.2.1 := by
  rcases react_cases happens with ⟨moved, pumped, same⟩ | ⟨launch, exits, same⟩ | ⟨_, step, same⟩
  · rw [same]
    exact ⟨⟨h.receiving, h.unasked⟩, rfl, Wire.outgoing_pump_suffix pumped⟩
  · have held : Held { s with launch } := ⟨h.receiving, h.unasked⟩
    obtain ⟨held, quiet⟩ := held.noteExits exits
    rw [same]
    exact ⟨held, quiet.requests, quiet.queue⟩
  · rw [same]
    exact h.stopStep step

/-! ## Calls while another one receives -/

/-- A call that sends waits exactly for a call that receives. -/
theorem send_waiting_iff (message : Json) :
    (s.send message).1 = .waiting ↔ s.needsStop ∧ s.receiving := by
  rw [send]
  by_cases needs : s.needsStop
  · by_cases receiving : s.receiving
    · simp [needs, receiving]
    · rw [if_neg (by simpa using needs), if_neg receiving]
      split <;> simp [receiving]
  · simp [needs]

theorem Held.send (h : s.Held) (message : Json) :
    (s.send message).2 = s ∧ (s.needsStop → (s.send message).1 = .waiting) := by
  refine ⟨?_, fun needs => (send_waiting_iff message).mpr ⟨needs, h.receiving⟩⟩
  rw [Server.send]
  split
  · rfl
  · rw [if_pos h.receiving]

/-- A stop waits for the client, and may wait until a time. -/
theorem Held.beginStop (h : s.Held) (m : Machine) :
    (s.beginStop m).2.Held ∧ Withheld s (s.beginStop m).2 ∧
      (s.needsStop → (s.beginStop m).2.stopping = .queued (m.clock + s.shutdownLimit)) := by
  rw [Server.beginStop]
  split
  · next refused =>
    refine ⟨h, .refl s, fun needs => ?_⟩
    rw [needs] at refused
    cases refused
  · rw [if_pos h.receiving]
    exact ⟨⟨h.receiving, Bool.false_ne_true⟩, ⟨rfl, List.suffix_rfl⟩, fun _ => rfl⟩

/-- A call that goes on receiving uses up what has arrived, and nothing else. -/
theorem Held.receive (h : s.Held) (waits : s.receive.1 = .waiting) :
    s.receive.2.Held ∧ Withheld s s.receive.2 := by
  have kept := s.client.keeps_resume s.wire.channel.firstSight
  have numbered := s.client.nextId_resume s.wire.channel.firstSight
  rw [Server.receive, if_pos h.receiving] at waits ⊢
  split
  · next c read =>
    rw [read] at kept numbered
    refine ⟨⟨rfl, h.unasked⟩, numbered, ?_⟩
    exact kept.outgoing ▸ List.suffix_rfl
  · next a c others read =>
    rw [read] at waits
    cases a with
    | waiting => exact absurd rfl others
    | done | failed => cases waits

/-- What does not end the call that receives gives nothing to the channel. -/
theorem Held.act (h : s.Held) {a : Act} (stays : ¬ a.letsGo s) :
    (s.act a).Held ∧ Withheld s (s.act a) := by
  cases a with
  | launched | exited | cancelled | dropped =>
      exact ⟨⟨h.receiving, h.unasked⟩, rfl, List.suffix_rfl⟩
  | stop m =>
      obtain ⟨held, quiet, -⟩ := h.beginStop m
      exact ⟨held, quiet⟩
  | reacts m out =>
      rw [Server.act]
      cases happens : s.react m out with
      | none => exact ⟨h, .refl s⟩
      | some after => exact h.react happens
  | send message =>
      rw [Server.act, (h.send message).1]
      exact ⟨h, .refl s⟩
  | receive => exact h.receive (Classical.not_not.mp stays)
  | leaveReceive => exact absurd trivial stays

/-- As long as a call that receives has no message and is not given up, nothing is given to the
channel. -/
theorem Held.acts (h : s.Held) {acts : List Act} (pending : s.Pending acts) :
    (s.acts acts).Held ∧ Withheld s (s.acts acts) := by
  induction acts generalizing s with
  | nil => exact ⟨h, .refl s⟩
  | cons a rest ih =>
      obtain ⟨held, quiet⟩ := h.act pending.1
      obtain ⟨held', quiet'⟩ := ih held pending.2
      exact ⟨held', quiet.trans quiet'⟩

/-! ## Calls while nobody receives -/

/-- The channel takes what it is given. -/
structure Ready (s : Server) : Prop where
  connected : s.wire.channel.isConnected
  writing : ¬ s.wire.channel.isBroken

/-- The queue of the session after a message was given to the channel. -/
def queueWith (s : Server) (message : Json) : List (List Char) :=
  s.wire.channel.outgoing ++ [Client.frameOf message]

/-- The request that a stop sends first. -/
def shutdownRequest (s : Server) : Json :=
  Client.request (Client.requestId s.talk.nextId) Client.shutdownMethod none

theorem queue_ne_queueWith (s : Server) (message : Json) :
    s.wire.channel.outgoing ≠ s.queueWith message := by
  intro same
  have lengths := congrArg List.length same
  rw [queueWith, List.length_append, List.length_singleton] at lengths
  omega

theorem Ready.send_eq (h : s.Ready) (c : Client) (same : c.channel = s.wire.channel)
    (message : Json) :
    c.send message =
      .ok { c with channel := { s.wire.channel with outgoing := s.queueWith message } } := by
  have sent : Frame.send c.channel message.text =
      .ok { s.wire.channel with outgoing := s.queueWith message } := by
    rw [Frame.send, Channel.send, same, if_neg (by simp [h.connected]), if_neg h.writing]
    rfl
  rw [Client.send, sent]

/-- A call that sends is done at once. -/
theorem Ready.send (h : s.Ready) (needs : s.needsStop) (free : ¬ s.receiving) (message : Json) :
    (s.send message).1 = .done () ∧
      (s.send message).2.wire.channel.outgoing = s.queueWith message := by
  rw [Server.send, if_neg (by simp [needs]), if_neg free, h.send_eq s.client rfl message]
  exact ⟨rfl, rfl⟩

/-- A stop that has the client asks the server to shut down. -/
theorem Ready.shakeHands (h : s.Ready) (m : Machine) (deadline : Nat) :
    (s.shakeHands m deadline).2.stopping =
        .asked (Client.requestId s.talk.nextId) deadline ∧
      (s.shakeHands m deadline).2.wire.channel.outgoing = s.queueWith s.shutdownRequest := by
  have connected : s.client.isConnected := h.connected
  have sent := h.send_eq { s.client with nextId := s.talk.nextId + 1 } rfl s.shutdownRequest
  have asked : s.client.sendRequest Client.shutdownMethod none =
      (Client.requestId s.talk.nextId, .ok (),
        { s.talk with
          nextId := s.talk.nextId + 1
          channel := { s.wire.channel with outgoing := s.queueWith s.shutdownRequest } }) := by
    rw [Client.sendRequest]
    dsimp only
    rw [show s.client.nextId = s.talk.nextId from rfl, ← shutdownRequest, sent]
    rfl
  rw [Server.shakeHands, if_neg (by simp [connected]), asked]
  exact ⟨rfl, rfl⟩

theorem Ready.beginStop (h : s.Ready) (needs : s.needsStop) (free : ¬ s.receiving) (m : Machine) :
    (s.beginStop m).2.wire.channel.outgoing = s.queueWith s.shutdownRequest := by
  rw [Server.beginStop, if_neg (by simp [needs])]
  dsimp only
  rw [if_neg free]
  have ready : Ready { s with status := s.status.write .beginStop } := ⟨h.connected, h.writing⟩
  exact (ready.shakeHands m (m.clock + s.shutdownLimit)).2

/-- A stop that has waited for the client asks the server to shut down when it gets hold of it. -/
theorem Ready.stopStep (h : s.Ready) (free : ¬ s.receiving) {deadline : Nat}
    (queued : s.stopping = .queued deadline) (m : Machine) :
    ∃ after, s.stopStep m = some after ∧
      after.2.wire.channel.outgoing = s.queueWith s.shutdownRequest := by
  refine ⟨s.shakeHands m deadline, ?_, (h.shakeHands m deadline).2⟩
  rw [Server.stopStep, queued]
  dsimp only
  rw [if_pos (by simp [free])]

/-- Take a session that needs a stop and whose channel takes what it is given, whatever was done to
it since its launch. A message that is sent, and the request of a stop, are given to the channel at
once exactly if no call receives. If one does, nothing is given to the channel as long as that call
has no message and is not given up, whatever else is done: who sends waits, no stop comes to ask,
and a stop whose time is over goes on to the process. A stop that has waited asks as soon as the
call is over, if the channel still takes what it is given. -/
theorem goes_through_iff (scope : Scope) (launch : RLanguageHost.Server.Launch) (wire : Wire)
    (shutdownLimit : Nat) (before : List Act) :
    let s := (launching scope launch wire shutdownLimit).acts before
    s.needsStop → s.Ready →
      (∀ message, (s.send message).2.wire.channel.outgoing = s.queueWith message ↔
        ¬ s.receiving) ∧
      (∀ m, (s.beginStop m).2.wire.channel.outgoing = s.queueWith s.shutdownRequest ↔
        ¬ s.receiving) ∧
      (s.receiving → ∀ acts, s.Pending acts →
        let t := s.acts acts
        Withheld s t ∧ ¬ t.stopping.isAsking ∧
          (∀ message, t.needsStop → (t.send message).1 = .waiting) ∧
          ∀ m deadline, t.stopping = .queued deadline →
            t.stopStep m = if deadline ≤ m.clock then some (t.stopProcess m) else none) ∧
      ∀ acts m deadline,
        let t := s.acts acts
        t.Ready → ¬ t.receiving → t.stopping = .queued deadline →
          ∃ after, t.stopStep m = some after ∧
            after.2.wire.channel.outgoing = t.queueWith t.shutdownRequest := by
  intro s needs ready
  have settled : Settled (launching scope launch wire shutdownLimit) := fun _ => rfl
  have idle : s.stopping = .idle := (settled.acts before).2 needs
  have held : s.receiving → s.Held := fun receiving =>
    ⟨receiving, by simp [idle, StopPhase.isAsking]⟩
  refine ⟨fun message => ?_, fun m => ?_, fun receiving acts pending => ?_,
    fun acts m deadline => ?_⟩
  · constructor
    · intro given receiving
      rw [((held receiving).send message).1] at given
      exact s.queue_ne_queueWith message given
    · intro free
      exact (ready.send needs free message).2
  · constructor
    · intro given receiving
      have quiet := ((held receiving).beginStop m).2.1.queue
      have lengths := quiet.length_le
      rw [given, queueWith, List.length_append, List.length_singleton] at lengths
      omega
    · intro free
      exact ready.beginStop needs free m
  · intro t
    obtain ⟨held', quiet⟩ := (held receiving).acts pending
    refine ⟨quiet, held'.unasked, fun message => (held'.send message).2, ?_⟩
    intro m deadline queued
    rw [Server.stopStep, queued]
    have receiving' : t.receiving := held'.receiving
    dsimp only
    rw [if_neg (by simp [receiving'])]
  · intro t ready' free queued
    exact ready'.stopStep free queued m

/-! ## A server that waits to be spoken to -/

/-- A session whose server has said nothing, while a call receives. -/
def listening : Server :=
  (launching default default { reads := none, writes := none } 3000000).acts [.launched, .receive]

theorem ready_listening : listening.Ready where
  connected := by decide +kernel
  writing := by decide +kernel

/-- While the call receives, a message that is sent waits, and a stop whose time runs out gets to
the process without having asked. If the call is given up in time, the stop asks. -/
theorem goes_through_iff_listening :
    let stopped := listening.acts [.stop {}, .reacts { clock := 3000000 } {}]
    let left := listening.acts [.stop {}, .leaveReceive]
    listening.needsStop ∧ listening.receiving ∧ (listening.send (.str "")).1 = .waiting ∧
      (Withheld listening stopped ∧ stopped.status = .stopped) ∧
      ∃ after, left.stopStep {} = some after ∧
        after.2.wire.channel.outgoing = left.queueWith left.shutdownRequest := by
  intro stopped left
  have needs : listening.needsStop := by decide +kernel
  have receiving : listening.receiving := by decide +kernel
  obtain ⟨-, -, waits, resumes⟩ := goes_through_iff default default
    { reads := none, writes := none } 3000000 [.launched, .receive] needs ready_listening
  have sends : (listening.send (.str "")).1 = .waiting :=
    (waits receiving [] trivial).2.2.1 _ needs
  have withheld : Withheld listening stopped :=
    (waits receiving [.stop {}, .reacts { clock := 3000000 } {}] ⟨id, id, trivial⟩).1
  have ready : left.Ready := ⟨by decide +kernel, by decide +kernel⟩
  exact ⟨needs, receiving, sends, ⟨withheld, by decide +kernel⟩,
    resumes [.stop {}, .leaveReceive] {} 3000000 ready (by decide +kernel) (by decide +kernel)⟩

end Session.Server

end RLanguageHost
