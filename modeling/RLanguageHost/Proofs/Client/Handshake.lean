import RLanguageHost.Proofs.Client.Calls

/-!
# The shutdown handshake

`Reached` are the clients that a shutdown may find. Whatever was called before, all requests have
numbers below the next one, so the identifier of the shutdown is new.

The call may have to wait. Then others work on the channel, and sooner or later it is looked at
again and goes on where it waits. `Steps` are what the client itself does without waiting, `Trace`
what it does in a whole call, and `Course` are the records of whole calls with what the call
returns. Each of the ways out of a look is one `Ending`.
-/

namespace RLanguageHost.Client

theorem nextId_meanwhile (client : Client) (what : Elsewhere) :
    (client.meanwhile what).nextId = client.nextId := by
  cases what with
  | moved move =>
      rw [meanwhile]
      split <;> rfl
  | delivered => rfl
  | cancelled => rfl

namespace Handshake

/-! ## What a client does -/

/-- Something that a client does with its channel. -/
inductive Event where
  /-- It asks for the next message. -/
  | received (outcome : Attempt Error Json)
  /-- It sends a message, and the channel accepts or refuses it. -/
  | sent (message : Json) (outcome : Except Error Unit)

/-- A client does some things in order, and nobody else does anything meanwhile. Only what is sent
gets into the queue of the channel. -/
inductive Steps (start : Client) : List Event → Client → Prop where
  | nil : Steps start [] start
  | received {events : List Event} {client : Client} (before : Steps start events client)
      (kept : client.Keeps client.receive.2) :
      Steps start (events ++ [.received client.receive.1]) client.receive.2
  | sent {events : List Event} {client client' : Client} (before : Steps start events client)
      {message : Json} (accepted : client.send message = .ok client')
      (queued : client'.channel =
        { client.channel with outgoing := client.channel.outgoing ++ [frameOf message] }) :
      Steps start (events ++ [.sent message (.ok ())]) client'
  | refused {events : List Event} {client : Client} (before : Steps start events client)
      {message : Json} {e : Error} (refused : client.send message = .error e) :
      Steps start (events ++ [.sent message (.error e)]) client

variable {start client client' : Client} {events more : List Event}

theorem Steps.trans (first : Steps start events client) (second : Steps client more client') :
    Steps start (events ++ more) client' := by
  induction second with
  | nil =>
      rw [List.append_nil]
      exact first
  | received _ kept ih =>
      rw [← List.append_assoc]
      exact .received ih kept
  | sent _ accepted queued ih =>
      rw [← List.append_assoc]
      exact .sent ih accepted queued
  | refused _ refused ih =>
      rw [← List.append_assoc]
      exact .refused ih refused

theorem steps_receive {outcome : Attempt Error Json}
    (received : client.receive = (outcome, client')) :
    Steps client [.received outcome] client' := by
  have step : Steps client [.received client.receive.1] client.receive.2 :=
    .received .nil client.keeps_receive
  rwa [received] at step

theorem channel_of_send {message : Json} (accepted : client.send message = .ok client') :
    client'.channel =
      { client.channel with outgoing := client.channel.outgoing ++ [frameOf message] } :=
  (Channel.send_ok (channel_send accepted)).2

theorem steps_sent {message : Json} (accepted : client.send message = .ok client') :
    Steps client [.sent message (.ok ())] client' :=
  .sent .nil accepted (channel_of_send accepted)

theorem steps_refused {message : Json} {e : Error} (refused : client.send message = .error e) :
    Steps client [.sent message (.error e)] client :=
  .refused .nil refused

theorem nextId_of_send {message : Json} (accepted : client.send message = .ok client') :
    client'.nextId = client.nextId := by
  rw [send] at accepted
  split at accepted
  · cases accepted
  · cases accepted
    rfl

/-- Only a request takes a number. -/
theorem Steps.nextId (steps : Steps start events client) : client.nextId = start.nextId := by
  induction steps with
  | nil => rfl
  | received _ _ ih => exact (nextId_receive _).trans ih
  | sent _ accepted _ ih => exact (nextId_of_send accepted).trans ih
  | refused _ _ ih => exact ih

/-! ## Messages of the handshake -/

/-- The request to shut down. It has no parameters. -/
def askMessage (id : String) : Json :=
  .obj [("id", .str id), ("jsonrpc", .str "2.0"), ("method", .str "shutdown")]

/-- The notification to exit. -/
def exitMessage : Json :=
  .obj [("jsonrpc", .str "2.0"), ("method", .str "exit")]

theorem insertMember_of_after {key k : String} (after : ¬ key < k) (other : key ≠ k)
    (value v : Json) (rest : List (String × Json)) :
    Json.insertMember key value ((k, v) :: rest) = (k, v) :: Json.insertMember key value rest := by
  rw [Json.insertMember, if_neg after, if_neg other]

theorem callMembers_none (method : String) :
    callMembers method none = [("jsonrpc", .str "2.0"), ("method", .str method)] := rfl

theorem request_eq_askMessage (id : String) : request id shutdownMethod none = askMessage id := by
  rw [request, callMembers_none, Json.ofMembers, shutdownMethod]
  simp only [List.foldl_cons, List.foldl_nil]
  rw [Json.insertMember, insertMember_of_after (by decide) (by decide), Json.insertMember,
    insertMember_of_after (by decide) (by decide), insertMember_of_after (by decide) (by decide),
    Json.insertMember, askMessage]

theorem notification_eq_exitMessage : notification exitMethod none = exitMessage := by
  rw [notification, callMembers_none, Json.ofMembers, exitMethod]
  simp only [List.foldl_cons, List.foldl_nil]
  rw [Json.insertMember, insertMember_of_after (by decide) (by decide), Json.insertMember,
    exitMessage]

/-- What an error in an answer says. -/
def wording (error : Json) : String :=
  match error.member? "message" with
  | some (.str text) => text
  | _ => "unknown error"

theorem answers_iff (message : Json) (id : String) :
    answers message id ↔ message.member? "id" = some (.str id) := by
  rw [answers, decide_eq_true_iff]
  cases message.member? "id" with
  | none => simp
  | some value => cases value <;> simp [Json.str?]

theorem reported?_eq (answer : Json) :
    reported? answer =
      (answer.member? "error").map fun error => .server shutdownMethod (wording error) := by
  rw [reported?]
  congr 1
  funext error
  rw [wording]
  cases error.member? "message" with
  | none => rfl
  | some value => cases value <;> rfl

/-! ## One look -/

/-- The client goes on waiting after an event. -/
inductive Passes (id : String) : Event → Prop where
  | waited : Passes id (.received .waiting)
  | other {message : Json} (foreign : message.member? "id" ≠ some (.str id)) :
      Passes id (.received (.done message))

/-- How a look at a shutdown ends, with what is returned then. -/
inductive Ending (id : String) : List Event → Attempt Error Unit → Prop where
  | waits : Ending id [.received .waiting] .waiting
  /-- The channel, a frame or the text of a message is at fault. -/
  | breaks (e : Error) : Ending id [.received (.failed e)] (.failed e)
  | denied {answer error : Json} (answers : answer.member? "id" = some (.str id))
      (reports : answer.member? "error" = some error) :
      Ending id [.received (.done answer)] (.failed (.server shutdownMethod (wording error)))
  | told {answer : Json} (answers : answer.member? "id" = some (.str id))
      (grants : answer.member? "error" = none) :
      Ending id [.received (.done answer), .sent exitMessage (.ok ())] (.done ())
  | untold {answer : Json} (answers : answer.member? "id" = some (.str id))
      (grants : answer.member? "error" = none) (e : Error) :
      Ending id [.received (.done answer), .sent exitMessage (.error e)] (.failed e)

theorem member_of_awaitAnswer (client : Client) {id : String} {answer : Json}
    (awaited : (client.awaitAnswer id).1 = .done answer) :
    answer.member? "id" = some (.str id) := by
  fun_induction awaitAnswer client id with
  | case1 => cases awaited
  | case2 => cases awaited
  | case3 client message client' _ answered =>
      cases awaited
      exact (answers_iff _ _).mp answered
  | case4 _ _ _ _ _ ih => exact ih awaited

theorem exists_steps_awaitAnswer (client : Client) (id : String) :
    ∃ heard, (∀ event ∈ heard, Passes id event) ∧
      Steps client (heard ++ [.received (client.awaitAnswer id).1]) (client.awaitAnswer id).2 := by
  have nothing : ∀ event ∈ [], Passes id event := List.forall_mem_nil _
  fun_induction awaitAnswer client id with
  | case1 client client' received => exact ⟨[], nothing, steps_receive received⟩
  | case2 client e client' received => exact ⟨[], nothing, steps_receive received⟩
  | case3 client message client' received _ => exact ⟨[], nothing, steps_receive received⟩
  | case4 client message client' received other ih =>
      obtain ⟨heard, passed, steps⟩ := ih
      have skipped : Passes id (.received (.done message)) :=
        .other (mt (answers_iff _ _).mpr other)
      exact ⟨.received (.done message) :: heard, List.forall_mem_cons.mpr ⟨skipped, passed⟩,
        (steps_receive received).trans steps⟩

/-- What a shutdown does when it has received a message that may be the answer. -/
theorem exists_ending {id : String} (awaited : Attempt Error Json × Client)
    (answered : ∀ answer, awaited.1 = .done answer → answer.member? "id" = some (.str id)) :
    ∃ told, Ending id (.received awaited.1 :: told) (concludeShutdown awaited).1 ∧
      Steps awaited.2 told (concludeShutdown awaited).2 := by
  obtain ⟨outcome, before⟩ := awaited
  cases outcome with
  | waiting => exact ⟨[], .waits, .nil⟩
  | failed e => exact ⟨[], .breaks e, .nil⟩
  | done answer =>
      have answers := answered answer rfl
      rw [concludeShutdown, reported?_eq]
      cases reports : answer.member? "error" with
      | some error => exact ⟨[], .denied answers reports, .nil⟩
      | none =>
          dsimp only [Option.map_none]
          rw [sendNotification, notification_eq_exitMessage]
          cases told : before.send exitMessage with
          | error e => exact ⟨_, .untold answers reports e, steps_refused told⟩
          | ok client' => exact ⟨_, .told answers reports, steps_sent told⟩

/-- A look: messages that are thrown away, and then one of the endings. -/
theorem exists_steps_finishShutdown (client : Client) (id : String) :
    ∃ heard last, (∀ event ∈ heard, Passes id event) ∧
      Ending id last (client.finishShutdown id).1 ∧
      Steps client (heard ++ last) (client.finishShutdown id).2 := by
  obtain ⟨heard, passed, steps⟩ := exists_steps_awaitAnswer client id
  obtain ⟨told, ending, steps'⟩ := exists_ending _ fun answer => member_of_awaitAnswer client
  have all := steps.trans steps'
  rw [List.append_assoc] at all
  exact ⟨heard, _, passed, ending, all⟩

theorem member_of_resumeAnswer (client : Client) (sight : Channel.Sight) {id : String}
    {answer : Json} (awaited : (client.resumeAnswer sight id).1 = .done answer) :
    answer.member? "id" = some (.str id) := by
  rcases client.resumeAnswer_cases sight id with ⟨same, answered⟩ | ⟨_, client', -, -, anew⟩
  · rw [same] at awaited
    exact (answers_iff _ _).mp (answered answer awaited)
  · rw [anew] at awaited
    exact member_of_awaitAnswer client' awaited

theorem exists_steps_resumeAnswer (client : Client) (sight : Channel.Sight) (id : String) :
    ∃ heard later, (∀ event ∈ heard, Passes id event) ∧
      heard ++ [.received (client.resumeAnswer sight id).1] =
        .received (client.resume sight).1 :: later ∧
      Steps (client.resume sight).2 later (client.resumeAnswer sight id).2 := by
  rcases client.resumeAnswer_cases sight id with
    ⟨same, -⟩ | ⟨message, client', resumed, other, anew⟩
  · rw [same]
    exact ⟨[], [], List.forall_mem_nil _, rfl, .nil⟩
  · obtain ⟨heard, passed, steps⟩ := exists_steps_awaitAnswer client' id
    have skipped : Passes id (.received (.done message)) :=
      .other (mt (answers_iff _ _).mpr other)
    rw [resumed, anew]
    exact ⟨.received (.done message) :: heard, _, List.forall_mem_cons.mpr ⟨skipped, passed⟩, rfl,
      steps⟩

/-- A look at a call that waits. It goes on receiving before it does anything else. -/
theorem exists_steps_resumeShutdown (client : Client) (sight : Channel.Sight) (id : String) :
    ∃ heard last more, (∀ event ∈ heard, Passes id event) ∧
      Ending id last (client.resumeShutdown sight id).1 ∧
      heard ++ last = .received (client.resume sight).1 :: more ∧
      Steps (client.resume sight).2 more (client.resumeShutdown sight id).2 := by
  obtain ⟨heard, later, passed, first, steps⟩ := exists_steps_resumeAnswer client sight id
  obtain ⟨told, ending, steps'⟩ :=
    exists_ending _ fun answer => member_of_resumeAnswer client sight
  refine ⟨heard, _, later ++ told, passed, ending, ?_, steps.trans steps'⟩
  rw [← List.cons_append, ← first, List.append_assoc, List.singleton_append]

/-! ## Waiting -/

theorem decode_eq_waiting_iff {result : Attempt Frame.Error (List Char)} :
    decode result = .waiting ↔ result = .waiting := by
  cases result with
  | waiting | failed => simp [decode]
  | done text =>
      rw [decode]
      split <;> simp

theorem queue_of_waits (waits : client.receive.1 = .waiting) : client.receiver.queue = [] :=
  Frame.Receiver.queue_of_receive_waiting (decode_eq_waiting_iff.mp waits)

theorem waits_again (waits : client.receive = (.waiting, client')) :
    client'.receive.1 = .waiting := by
  rcases taken : client.receiver.receive client.channel with ⟨outcome, r, c⟩
  rw [receive, taken] at waits
  obtain ⟨decoded, rfl⟩ := Prod.mk.inj waits
  obtain rfl := decode_eq_waiting_iff.mp decoded
  rw [receive, Frame.Receiver.waits_again taken]
  rfl

/-- A call that goes on waiting waits for what a new one would wait for. -/
theorem waits_of_resume {sight : Channel.Sight} (empty : client.receiver.queue = [])
    (waits : client.resume sight = (.waiting, client')) : client'.receive.1 = .waiting := by
  rcases taken : client.receiver.resume client.channel sight with ⟨outcome, r, c⟩
  rw [resume, taken] at waits
  obtain ⟨decoded, rfl⟩ := Prod.mk.inj waits
  obtain rfl := decode_eq_waiting_iff.mp decoded
  rw [receive, Frame.Receiver.waits_again_of_resume empty taken]
  rfl

theorem waits_of_awaitAnswer (client : Client) {id : String}
    (waits : (client.awaitAnswer id).1 = .waiting) :
    (client.awaitAnswer id).2.receive.1 = .waiting := by
  fun_induction awaitAnswer client id with
  | case1 client client' received => exact waits_again received
  | case2 => cases waits
  | case3 => cases waits
  | case4 _ _ _ _ _ ih => exact ih waits

theorem waits_of_resumeAnswer {sight : Channel.Sight} {id : String}
    (empty : client.receiver.queue = []) (waits : (client.resumeAnswer sight id).1 = .waiting) :
    (client.resumeAnswer sight id).2.receive.1 = .waiting := by
  rcases client.resumeAnswer_cases sight id with ⟨same, -⟩ | ⟨_, client', -, -, anew⟩
  · rw [same] at waits ⊢
    exact waits_of_resume empty (Prod.ext waits rfl)
  · rw [anew] at waits ⊢
    exact waits_of_awaitAnswer client' waits

/-- A look that goes on waiting does nothing after it. -/
theorem concludeShutdown_of_waiting {awaited : Attempt Error Json × Client}
    (waits : (concludeShutdown awaited).1 = .waiting) :
    awaited.1 = .waiting ∧ (concludeShutdown awaited).2 = awaited.2 := by
  obtain ⟨outcome, before⟩ := awaited
  cases outcome with
  | waiting => exact ⟨rfl, rfl⟩
  | failed e => cases waits
  | done answer =>
      rw [concludeShutdown] at waits
      split at waits
      · cases waits
      · split at waits <;> cases waits

theorem waits_of_finishShutdown (client : Client) {id : String}
    (waits : (client.finishShutdown id).1 = .waiting) :
    (client.finishShutdown id).2.receive.1 = .waiting := by
  obtain ⟨awaits, same⟩ := concludeShutdown_of_waiting waits
  rw [finishShutdown, same]
  exact waits_of_awaitAnswer client awaits

theorem waits_of_resumeShutdown {sight : Channel.Sight} {id : String}
    (empty : client.receiver.queue = []) (waits : (client.resumeShutdown sight id).1 = .waiting) :
    (client.resumeShutdown sight id).2.receive.1 = .waiting := by
  obtain ⟨awaits, same⟩ := concludeShutdown_of_waiting waits
  rw [resumeShutdown, same]
  exact waits_of_resumeAnswer empty awaits

theorem waits_of_shutdown (client : Client) (waits : client.shutdown.1 = .waiting) :
    client.shutdown.2.receive.1 = .waiting := by
  rw [shutdown] at waits ⊢
  rcases client.sendRequest_cases shutdownMethod none with ⟨asking, _, ended⟩ | ⟨e, _, ended⟩
  · rw [ended] at waits ⊢
    exact waits_of_finishShutdown asking waits
  · rw [ended] at waits
    cases waits

/-! ## Whole calls -/

/-- What a client does while it is called and then turns are made. A call that waits goes on from
there when it is looked at, and one that has returned does nothing any more. -/
inductive Trace (start : Client) : List Turn → List Event → Client → Prop where
  | called {events : List Event} {client : Client} (steps : Steps start events client) :
      Trace start [] events client
  | elsewhere {turns : List Turn} {events : List Event} {client : Client}
      (before : Trace start turns events client) (what : Elsewhere) :
      Trace start (turns ++ [.elsewhere what]) events (client.meanwhile what)
  | resumed {turns : List Turn} {events more : List Event} {client client' : Client}
      (before : Trace start turns events client)
      (waits : events.getLast? = some (.received .waiting)) (sight : Channel.Sight)
      (kept : client.Keeps (client.resume sight).2)
      (steps : Steps (client.resume sight).2 more client') :
      Trace start (turns ++ [.look sight]) (events ++ .received (client.resume sight).1 :: more)
        client'
  | returned {turns : List Turn} {events : List Event} {client : Client}
      (before : Trace start turns events client)
      (ended : events.getLast? ≠ some (.received .waiting)) (sight : Channel.Sight) :
      Trace start (turns ++ [.look sight]) events client

/-- What a client does in a call of `shutdown`, and how the call stands then. -/
inductive Course (id : String) : List Event → Attempt Error Unit → Prop where
  | refused (e : Error) : Course id [.sent (askMessage id) (.error e)] (.failed e)
  | asked {heard last : List Event} {result : Attempt Error Unit}
      (passed : ∀ event ∈ heard, Passes id event) (ending : Ending id last result) :
      Course id (.sent (askMessage id) (.ok ()) :: (heard ++ last)) result

variable {id : String} {result : Attempt Error Unit} {turns : List Turn}

theorem Ending.eq_of_waiting {last : List Event} (ending : Ending id last .waiting) :
    last = [.received .waiting] := by
  cases ending
  rfl

/-- The call waits exactly if the last thing that the client did was to wait for a message. -/
theorem Course.getLast?_eq_iff (course : Course id events result) :
    events.getLast? = some (.received .waiting) ↔ result = .waiting := by
  cases course with
  | refused e => simp
  | asked passed ending => cases ending <;> simp [List.getLast?_cons, List.getLast?_append]

theorem Course.look (course : Course id events .waiting) (client : Client)
    (sight : Channel.Sight) :
    ∃ more, Steps (client.resume sight).2 more (client.resumeShutdown sight id).2 ∧
      Course id (events ++ .received (client.resume sight).1 :: more)
        (client.resumeShutdown sight id).1 := by
  obtain ⟨heard', last', more, passed', ending', split, steps⟩ :=
    exists_steps_resumeShutdown client sight id
  refine ⟨more, steps, ?_⟩
  rw [← split]
  cases course with
  | @asked heard last _ passed ending =>
      obtain rfl := ending.eq_of_waiting
      have all : ∀ event ∈ heard ++ [.received .waiting] ++ heard', Passes id event := by
        intro event member
        rcases List.mem_append.mp member with earlier | later
        · rcases List.mem_append.mp earlier with heard | waited
          · exact passed event heard
          · rw [List.mem_singleton.mp waited]
            exact .waited
        · exact passed' event later
      simpa using Course.asked all ending'

/-- A call of `shutdown` that returns or waits. -/
theorem exists_course_shutdown (client : Client) :
    ∃ events, Steps { client with nextId := client.nextId + 1 } events client.shutdown.2 ∧
      Course (requestId client.nextId) events client.shutdown.1 := by
  rw [shutdown]
  rcases client.sendRequest_cases shutdownMethod none with
    ⟨asking, sent, ended⟩ | ⟨e, refused, ended⟩
  · rw [request_eq_askMessage] at sent
    rw [ended]
    dsimp only
    obtain ⟨heard, last, passed, ending, steps⟩ :=
      exists_steps_finishShutdown asking (requestId client.nextId)
    have course := Course.asked passed ending
    exact ⟨_, (steps_sent sent).trans steps, course⟩
  · rw [request_eq_askMessage] at refused
    rw [ended]
    exact ⟨_, steps_refused refused, .refused e⟩

/-- A call that waits has nothing queued, whatever others do to its channel. -/
theorem queue_of_turn {s : Attempt Error Unit × Client}
    (empty : s.1 = .waiting → s.2.receiver.queue = []) (t : Turn)
    (waits : (turn id s t).1 = .waiting) : (turn id s t).2.receiver.queue = [] := by
  obtain ⟨result, client⟩ := s
  cases t with
  | elsewhere what =>
      have same : (client.meanwhile what).receiver = client.receiver := by
        cases what with
        | moved move =>
            rw [meanwhile]
            split <;> rfl
        | delivered => rfl
        | cancelled => rfl
      rw [turn, same]
      exact empty waits
  | look sight =>
      cases result with
      | waiting => exact queue_of_waits (waits_of_resumeShutdown (empty rfl) waits)
      | done => cases waits
      | failed => cases waits

theorem queue_of_turns {s : Attempt Error Unit × Client}
    (empty : s.1 = .waiting → s.2.receiver.queue = []) (turns : List Turn)
    (waits : (turns.foldl (turn id) s).1 = .waiting) :
    (turns.foldl (turn id) s).2.receiver.queue = [] := by
  induction turns generalizing s with
  | nil => exact empty waits
  | cons t rest ih => exact ih (queue_of_turn empty t) waits

theorem waits_of_look {s : Attempt Error Unit × Client} {sight : Channel.Sight}
    (empty : s.1 = .waiting → s.2.receiver.queue = [])
    (waits : (turn id s (.look sight)).1 = .waiting) :
    (turn id s (.look sight)).2.receive.1 = .waiting := by
  obtain ⟨result, client⟩ := s
  cases result with
  | waiting => exact waits_of_resumeShutdown (empty rfl) waits
  | done => cases waits
  | failed => cases waits

/-- Some turns of a call have a record. -/
def Recorded (id : String) (start : Client) (turns : List Turn)
    (s : Attempt Error Unit × Client) : Prop :=
  ∃ events, Trace start turns events s.2 ∧ Course id events s.1

theorem Recorded.turn {s : Attempt Error Unit × Client} (h : Recorded id start turns s)
    (t : Turn) : Recorded id start (turns ++ [t]) (turn id s t) := by
  obtain ⟨events, trace, course⟩ := h
  obtain ⟨result, client⟩ := s
  cases t with
  | elsewhere what => exact ⟨events, .elsewhere trace what, course⟩
  | look sight =>
      have ends := course.getLast?_eq_iff
      cases result with
      | waiting =>
          obtain ⟨more, steps, longer⟩ := course.look client sight
          have waits := ends.mpr rfl
          exact ⟨_, .resumed trace waits sight (client.keeps_resume sight) steps, longer⟩
      | done => exact ⟨events, .returned trace (mt ends.mp (by simp)) sight, course⟩
      | failed => exact ⟨events, .returned trace (mt ends.mp (by simp)) sight, course⟩

theorem Recorded.run {s : Attempt Error Unit × Client} (h : Recorded id start turns s)
    (later : List Turn) :
    Recorded id start (turns ++ later) (later.foldl (Handshake.turn id) s) := by
  induction later generalizing turns s with
  | nil =>
      rw [List.append_nil]
      exact h
  | cons t later ih =>
      have next := ih (h.turn t)
      rw [List.append_assoc] at next
      exact next

end Handshake

open Handshake

/-! ## Earlier calls -/

/-- Clients after any calls, and the identifiers of the requests that were made. -/
inductive Reached : List String → Client → Prop where
  | new (channel : Channel) : Reached [] { channel }
  | elsewhere {ids : List String} {client : Client} (before : Reached ids client)
      (what : Elsewhere) : Reached ids (client.meanwhile what)
  | sent {ids : List String} {client client' : Client} (before : Reached ids client)
      {message : Json} (accepted : client.send message = .ok client') : Reached ids client'
  | requested {ids : List String} {client : Client} (before : Reached ids client)
      (method : String) (params : Option Json) :
      Reached (ids ++ [(client.sendRequest method params).1])
        (client.sendRequest method params).2.2
  /-- A request is given up before it is sent. -/
  | abandoned {ids : List String} {client : Client} (before : Reached ids client) :
      Reached (ids ++ [requestId client.nextId]) { client with nextId := client.nextId + 1 }
  | received {ids : List String} {client : Client} (before : Reached ids client) :
      Reached ids client.receive.2
  /-- A call that waits for a message is looked at again. -/
  | waited {ids : List String} {client : Client} (before : Reached ids client)
      (sight : Channel.Sight) : Reached ids (client.resume sight).2
  | shutDown {ids : List String} {client : Client} (before : Reached ids client) :
      Reached (ids ++ [requestId client.nextId]) client.shutdown.2
  /-- A shutdown that waits is looked at again. It is given up if that never happens. -/
  | resumed {ids : List String} {client : Client} (before : Reached ids client)
      (sight : Channel.Sight) (id : String) : Reached ids (client.resumeShutdown sight id).2
  | closed {ids : List String} {client : Client} (before : Reached ids client) :
      Reached ids client.close

/-- The requests with some identifiers have numbers below the next one. -/
def Numbered (ids : List String) (client : Client) : Prop :=
  ∀ earlier ∈ ids, ∃ n < client.nextId, earlier = requestId n

theorem requestId_inj {m n : Nat} (same : requestId m = requestId n) : m = n := by
  have digits : Nat.toDigits 10 m = Nat.toDigits 10 n := by
    simpa [requestId, Nat.repr, String.ofList_inj] using same
  rw [← Nat.ofDigitChars_ten_toDigits (n := m), digits, Nat.ofDigitChars_ten_toDigits]

section Numbered

variable {ids : List String} {client client' : Client}

theorem Numbered.of_nextId (h : Numbered ids client) (same : client'.nextId = client.nextId) :
    Numbered ids client' := by
  intro earlier member
  rw [same]
  exact h earlier member

theorem Numbered.push (h : Numbered ids client) (next : client'.nextId = client.nextId + 1) :
    Numbered (ids ++ [requestId client.nextId]) client' := by
  intro earlier member
  rw [next]
  rcases List.mem_append.mp member with old | new
  · obtain ⟨n, below, same⟩ := h earlier old
    exact ⟨n, by omega, same⟩
  · exact ⟨client.nextId, by omega, List.mem_singleton.mp new⟩

theorem Numbered.fresh (h : Numbered ids client) : requestId client.nextId ∉ ids := by
  intro member
  obtain ⟨n, below, same⟩ := h _ member
  have equal := requestId_inj same
  omega

theorem nextId_resumeShutdown (client : Client) (sight : Channel.Sight) (id : String) :
    (client.resumeShutdown sight id).2.nextId = client.nextId := by
  obtain ⟨_, _, _, _, _, _, steps⟩ := exists_steps_resumeShutdown client sight id
  exact steps.nextId

theorem nextId_shutdown (client : Client) : client.shutdown.2.nextId = client.nextId + 1 := by
  obtain ⟨_, steps, _⟩ := exists_course_shutdown client
  exact steps.nextId

theorem sendRequest_numbers (client : Client) (method : String) (params : Option Json) :
    (client.sendRequest method params).1 = requestId client.nextId ∧
      (client.sendRequest method params).2.2.nextId = client.nextId + 1 := by
  rcases client.sendRequest_cases method params with ⟨later, sent, ended⟩ | ⟨e, _, ended⟩
  · rw [ended]
    exact ⟨rfl, nextId_of_send sent⟩
  · rw [ended]
    exact ⟨rfl, rfl⟩

/-- Whether or not calls succeed, and whether or not they are given up, each request has taken a
number of its own. -/
theorem Reached.numbered (reached : Reached ids client) : Numbered ids client := by
  induction reached with
  | new => exact nofun
  | elsewhere _ what ih => exact ih.of_nextId (nextId_meanwhile _ what)
  | sent _ accepted ih => exact ih.of_nextId (nextId_of_send accepted)
  | requested _ method params ih =>
      obtain ⟨same, next⟩ := sendRequest_numbers _ method params
      rw [same]
      exact ih.push next
  | abandoned _ ih => exact ih.push rfl
  | received _ ih => exact ih.of_nextId (nextId_receive _)
  | shutDown _ ih => exact ih.push (nextId_shutdown _)
  | waited _ sight ih => exact ih.of_nextId (nextId_resume _ sight)
  | resumed _ sight id ih => exact ih.of_nextId (nextId_resumeShutdown _ sight id)
  | closed _ ih => exact ih.of_nextId rfl

end Numbered

/-! ## The handshake -/

/-- A client is told to shut its server down after any calls, and any turns follow. The identifier
of its request is that of no earlier one, and its number is above all of theirs. What the client
does is one of the courses, and the call stands as this course says. If it has just been looked at
and still waits, nothing can be received. -/
theorem shutdown_handshake {ids : List String} {client : Client} (reached : Reached ids client)
    (turns : List Turn) :
    let id := requestId client.nextId
    let shut := client.shutdownDuring turns
    (∀ earlier ∈ ids, ∃ n < client.nextId, earlier = requestId n) ∧ id ∉ ids ∧
      (∃ events, Trace { client with nextId := client.nextId + 1 } turns events shut.2 ∧
        Course id events shut.1) ∧
      (shut.1 = .waiting → (turns = [] ∨ ∃ before sight, turns = before ++ [.look sight]) →
        shut.2.receive.1 = .waiting) := by
  intro id shut
  obtain ⟨events, steps, course⟩ := exists_course_shutdown client
  have called : Recorded id { client with nextId := client.nextId + 1 } [] client.shutdown :=
    ⟨events, .called steps, course⟩
  refine ⟨reached.numbered, reached.numbered.fresh, called.run turns, ?_⟩
  rintro waits (rfl | ⟨before, sight, rfl⟩)
  · exact waits_of_shutdown client waits
  · have last : shut = turn id (client.shutdownDuring before) (.look sight) := List.foldl_append
    rw [last] at waits ⊢
    refine waits_of_look (queue_of_turns (fun called => ?_) before) waits
    exact queue_of_waits (waits_of_shutdown client called)

/-- The answer to an earlier request arrives, and then the answer to the shutdown. -/
theorem shutdown_handshake_stale_answer :
    let stale := "\x7b\"id\":\"r-lsp-launcher/1\",\"result\":null\x7d".toList
    let own := "\x7b\"id\":\"r-lsp-launcher/2\",\"result\":null\x7d".toList
    let channel : Channel := { incoming := [.text (Frame.frame stale), .text (Frame.frame own)] }
    let client := (Client.sendRequest { channel } "workspace/symbol" none).2.2
    Reached [requestId 1] client ∧ requestId 2 ∉ [requestId 1] ∧
      (client.shutdownDuring []).1 = .done () ∧
      ∃ events, Trace { client with nextId := 3 } [] events (client.shutdownDuring []).2 ∧
        Course (requestId 2) events (.done ()) := by
  intro stale own channel client
  have reached : Reached [requestId 1] client :=
    (Reached.new channel).requested "workspace/symbol" none
  obtain ⟨message, staleParsed, other⟩ := exists_parse_of_any
    (show (Json.parse (String.ofList stale)).toOption.any fun message =>
      !answers message (requestId 2) by decide +kernel)
  obtain ⟨answer, ownParsed, checked⟩ := exists_parse_of_any
    (show (Json.parse (String.ofList own)).toOption.any fun answer =>
      answers answer (requestId 2) && (reported? answer).isNone by decide +kernel)
  rw [Bool.not_eq_true'] at other
  rw [Bool.and_eq_true, Option.isNone_iff_eq_none] at checked
  let asking := (client.sendRequest shutdownMethod none).2.2
  let waiting := { asking with
    channel := { asking.channel with incoming := [Frame.frame own].map .text } }
  have first : asking.channel.Holds [Frame.frame stale, Frame.frame own] := ⟨rfl, rfl⟩
  have second : waiting.channel.Holds [Frame.frame own] := first.tail
  have discarded : asking.receive = (.done message, waiting) :=
    receive_frame rfl first (by decide +kernel) staleParsed
  have received := receive_frame rfl second (by decide +kernel) ownParsed
  have returned : (client.shutdownDuring []).1 = .done () := by
    change (asking.finishShutdown (requestId 2)).1 = .done ()
    rw [finishShutdown_of_other discarded (by simp [other]),
      finishShutdown_of_answer received checked.1 checked.2 rfl]
  obtain ⟨-, fresh, ⟨events, trace, course⟩, -⟩ := shutdown_handshake reached []
  rw [returned] at course
  exact ⟨reached, fresh, returned, events, trace, course⟩

end RLanguageHost.Client
