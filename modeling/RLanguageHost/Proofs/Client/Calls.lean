import RLanguageHost.Client
import RLanguageHost.Proofs.Channel.Writing
import RLanguageHost.Proofs.Frame.Receiving

/-!
# What the calls of a client do to its channel

Whatever a client receives, and however long it waits for an answer, of its channel only what has
arrived is used up (`Keeps`). A call that sends something adds one frame to what the writer is to
write, or nothing if it fails.
-/

namespace RLanguageHost.Client

/-- Of the channel, only what has arrived is used up. -/
def Keeps (client client' : Client) : Prop :=
  ∃ incoming, client'.channel = { client.channel with incoming }

variable {client client' later : Client}

theorem Keeps.refl (client : Client) : client.Keeps client :=
  ⟨client.channel.incoming, rfl⟩

theorem Keeps.trans (first : client.Keeps client') (second : client'.Keeps later) :
    client.Keeps later := by
  obtain ⟨_, same⟩ := first
  obtain ⟨incoming, same'⟩ := second
  exact ⟨incoming, by rw [same', same]⟩

theorem Keeps.outgoing (kept : client.Keeps client') :
    client'.channel.outgoing = client.channel.outgoing := by
  obtain ⟨_, same⟩ := kept
  rw [same]

theorem Keeps.writer (kept : client.Keeps client') :
    client'.channel.writer = client.channel.writer := by
  obtain ⟨_, same⟩ := kept
  rw [same]

theorem Keeps.cancelled (kept : client.Keeps client') :
    client'.channel.cancelled = client.channel.cancelled := by
  obtain ⟨_, same⟩ := kept
  rw [same]

theorem Keeps.writes {frames : List (List Char)} (kept : client.Keeps client')
    (h : client.channel.Writes frames) : client'.channel.Writes frames :=
  h.of_same kept.outgoing kept.writer

theorem keeps_receive (client : Client) : client.Keeps client.receive.2 :=
  client.receiver.receive_same client.channel

theorem keeps_resume (client : Client) (sight : Channel.Sight) :
    client.Keeps (client.resume sight).2 :=
  client.receiver.resume_same client.channel sight

theorem nextId_receive (client : Client) : client.receive.2.nextId = client.nextId :=
  rfl

theorem nextId_resume (client : Client) (sight : Channel.Sight) :
    (client.resume sight).2.nextId = client.nextId :=
  rfl

theorem keeps_awaitAnswer (client : Client) (id : String) :
    client.Keeps (client.awaitAnswer id).2 := by
  fun_induction awaitAnswer client id with
  | case1 client client' received
  | case2 client _ client' received
  | case3 client _ client' received =>
      have kept := client.keeps_receive
      rwa [received] at kept
  | case4 client message client' received _ ih =>
      have kept := client.keeps_receive
      rw [received] at kept
      exact kept.trans ih

/-- A wait for an answer that goes on has its first result at once, or waits anew after a message
that is not the answer. -/
theorem resumeAnswer_cases (client : Client) (sight : Channel.Sight) (id : String) :
    (client.resumeAnswer sight id = client.resume sight ∧
      ∀ message, (client.resume sight).1 = .done message → answers message id) ∨
    ∃ message client', client.resume sight = (.done message, client') ∧ ¬ answers message id ∧
      client.resumeAnswer sight id = client'.awaitAnswer id := by
  rw [resumeAnswer]
  generalize client.resume sight = resumed
  obtain ⟨outcome, client'⟩ := resumed
  cases outcome with
  | waiting | failed => exact .inl ⟨rfl, by simp⟩
  | done message =>
      by_cases answered : answers message id
      · exact .inl ⟨if_pos answered, by simpa using answered⟩
      · exact .inr ⟨message, client', rfl, answered, if_neg answered⟩

theorem keeps_resumeAnswer (client : Client) (sight : Channel.Sight) (id : String) :
    client.Keeps (client.resumeAnswer sight id).2 := by
  have kept := client.keeps_resume sight
  rcases client.resumeAnswer_cases sight id with ⟨same, -⟩ | ⟨_, client', resumed, -, anew⟩
  · rwa [same]
  · rw [resumed] at kept
    rw [anew]
    exact kept.trans (client'.keeps_awaitAnswer id)

/-- How a request ends: it is sent, or it only has its number. -/
theorem sendRequest_cases (client : Client) (method : String) (params : Option Json) :
    let id := requestId client.nextId
    let before := { client with nextId := client.nextId + 1 }
    (∃ client', before.send (request id method params) = .ok client' ∧
        client.sendRequest method params = (id, .ok (), client')) ∨
      ∃ e, before.send (request id method params) = .error e ∧
        client.sendRequest method params = (id, .error e, before) := by
  intro id before
  rw [sendRequest]
  split
  · next e refused => exact .inr ⟨e, refused, rfl⟩
  · next client' sent => exact .inl ⟨client', sent, rfl⟩

/-- How a look at a shutdown ends: with the notification to exit, or with nothing sent. -/
theorem concludeShutdown_cases {awaited : Attempt Error Json × Client}
    (kept : client.Keeps awaited.2) :
    (∃ before, client.Keeps before ∧
        before.sendNotification exitMethod none = .ok (concludeShutdown awaited).2 ∧
        (concludeShutdown awaited).1 = .done ()) ∨
      client.Keeps (concludeShutdown awaited).2 ∧ (concludeShutdown awaited).1 ≠ .done () := by
  obtain ⟨outcome, before⟩ := awaited
  cases outcome with
  | done answer =>
      rw [concludeShutdown]
      split
      · exact .inr ⟨kept, by simp⟩
      · split
        · exact .inr ⟨kept, by simp⟩
        · next told => exact .inl ⟨before, kept, told, rfl⟩
  | failed | waiting => exact .inr ⟨kept, by simp [concludeShutdown]⟩

theorem frameOf_ne_nil (message : Json) : frameOf message ≠ [] := by
  rw [frameOf, Frame.frame, Frame.boundary]
  simp

theorem channel_send {message : Json} (sent : client.send message = .ok client') :
    client.channel.send (frameOf message) = .ok client'.channel := by
  rw [send, Frame.send] at sent
  split at sent
  · cases sent
  · next channel accepted =>
    cases sent
    exact Except.mapError_eq_ok_iff.mp accepted

/-! ## An answer that has arrived -/

theorem exists_parse_of_any {text : String} {p : Json → Bool}
    (checked : (Json.parse text).toOption.any p) :
    ∃ value, Json.parse text = .ok value ∧ p value := by
  cases parsed : Json.parse text with
  | error fault =>
      rw [parsed] at checked
      cases checked
  | ok value =>
      rw [parsed] at checked
      exact ⟨value, rfl, checked⟩

theorem receive_frame {client : Client} {body : List Char} {value : Json}
    {texts : List (List Char)} (fresh : client.receiver = {})
    (holds : client.channel.Holds (Frame.frame body :: texts))
    (small : Frame.byteLength body ≤ Frame.maxLength)
    (parsed : Json.parse (String.ofList body) = .ok value) :
    client.receive =
      (.done value,
        { client with channel := { client.channel with incoming := texts.map .text } }) := by
  have fed : client.receiver.feed (Frame.frame body) = (none, { queue := [body] }) := by
    have bodies : ∀ b ∈ [body], Frame.byteLength b ≤ Frame.maxLength := by simpa using small
    have split := Frame.Receiver.split_frames bodies
    rw [List.flatMap_singleton] at split
    rw [fresh, Frame.Receiver.feed]
    simp [split]
  have text : client.receiver.receive client.channel =
      (.done body, {}, { client.channel with incoming := texts.map .text }) := by
    rw [Frame.Receiver.receive_of_feed (by rw [fresh]) holds.connected holds.receive_cons fed]
    exact Frame.Receiver.receive_of_queue rfl _
  rw [receive, text, fresh]
  dsimp only
  rw [decode, parsed]

theorem awaitAnswer_of_other {client client' : Client} {id : String} {message : Json}
    (received : client.receive = (.done message, client')) (other : ¬ answers message id) :
    client.awaitAnswer id = client'.awaitAnswer id := by
  rw [awaitAnswer]
  split
  · simp_all
  · simp_all
  · next got =>
    rw [received] at got
    cases got
    rw [if_neg other]

theorem finishShutdown_of_other {client client' : Client} {id : String} {message : Json}
    (received : client.receive = (.done message, client')) (other : ¬ answers message id) :
    client.finishShutdown id = client'.finishShutdown id := by
  rw [finishShutdown, awaitAnswer_of_other received other, finishShutdown]

theorem finishShutdown_of_answer {client client' later : Client} {id : String} {answer : Json}
    (received : client.receive = (.done answer, client')) (answered : answers answer id)
    (granted : reported? answer = none)
    (told : client'.sendNotification exitMethod none = .ok later) :
    client.finishShutdown id = (.done (), later) := by
  have waited : client.awaitAnswer id = (.done answer, client') := by
    rw [awaitAnswer]
    split
    · simp_all
    · simp_all
    · next got =>
      rw [received] at got
      cases got
      rw [if_pos answered]
  rw [finishShutdown, waited, concludeShutdown, granted]
  dsimp only
  rw [told]

end RLanguageHost.Client
