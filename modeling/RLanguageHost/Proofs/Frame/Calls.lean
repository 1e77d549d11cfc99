import RLanguageHost.Proofs.Frame.Reception
import RLanguageHost.Proofs.Frame.Reference

/-!
# Calls until the channel gives up

A receiver is called again and again while texts arrive, until the channel reports an error of its
own. `answers` is what the calls give up to then. The messages among the answers are those that the
texts together say, however they are cut, and so is the error, which comes up again with every text
that arrives after it.

Where the error stands among the messages does depend on the cuts. `ShowsWith` finds the text that
shows it first, with the messages that are whole before that text and those that become whole with
it; the second come after the error.
-/

namespace RLanguageHost.Frame

namespace Receiver

/-- What the calls of a receiver give while some texts arrive. Messages that are queued come before
the next text is looked at. -/
def answers (r : Receiver) : List (List Char) → List (Except Error (List Char))
  | [] => r.queue.map .ok
  | text :: texts =>
    let (fault, fed) := { r with queue := [] }.feed text
    r.queue.map .ok ++ fault.toList.map .error ++ answers fed texts

/-- No frame can be taken off the buffer of a receiver. -/
def IsDrained (r : Receiver) : Prop :=
  ∀ body rest, parse r.buffer ≠ .message body rest

variable {r r' : Receiver} {texts : List (List Char)}

theorem IsClean.isDrained (h : r.IsClean) : r.IsDrained := by
  intro body rest
  rw [h]
  exact Parsed.noConfusion

theorem isDrained_of_feed {text : List Char} {fault : Option Error}
    (h : r.feed text = (fault, r')) : r'.IsDrained := by
  intro body rest
  rw [parse_buffer_of_feed h]
  cases fault <;> exact Parsed.noConfusion

theorem IsDrained.outstanding_nil (h : r.IsDrained) :
    (r.outstanding []).1 = r.queue ∧ (r.outstanding []).2.1 = r.buffer := by
  rw [outstanding, List.append_nil]
  cases parsed : parse r.buffer with
  | message body rest => exact absurd parsed (h body rest)
  | incomplete => simp [split_of_incomplete parsed]
  | bad e => simp [split_of_bad parsed]

/-- What is queued comes first, and the rest does not depend on it. -/
theorem outstanding_eq (r : Receiver) (pending : List Char) :
    r.outstanding pending =
      (r.queue ++ ({ r with queue := [] }.outstanding pending).1,
        ({ r with queue := [] }.outstanding pending).2) := by
  simp [outstanding]

theorem outstanding_cons {text : List Char} {fault : Option Error}
    (fed : { r with queue := [] }.feed text = (fault, r')) :
    r.outstanding (text :: texts).flatten =
      (r.queue ++ (r'.outstanding texts.flatten).1, (r'.outstanding texts.flatten).2) := by
  rw [outstanding_eq, List.flatten_cons, ← outstanding_feed, fed]

theorem answers_cons {text : List Char} {fault : Option Error}
    (fed : { r with queue := [] }.feed text = (fault, r')) :
    r.answers (text :: texts) =
      r.queue.map .ok ++ fault.toList.map .error ++ r'.answers texts := by
  rw [answers, fed]

theorem answers_of_queue {message : List Char} {rest : List (List Char)}
    (h : r.queue = message :: rest) :
    r.answers texts = .ok message :: { r with queue := rest }.answers texts := by
  cases texts <;> simp [answers, h]

/-! ## What the answers are -/

theorem filterMap_map_ok (messages : List (List Char)) :
    (messages.map .ok : List (Except Error (List Char))).filterMap Except.toOption = messages := by
  induction messages with
  | nil => rfl
  | cons message rest ih => simpa [Except.toOption] using ih

theorem filterMap_answers (h : r.IsDrained) :
    (r.answers texts).filterMap Except.toOption = (r.outstanding texts.flatten).1 := by
  induction texts generalizing r with
  | nil => rw [answers, filterMap_map_ok, List.flatten_nil, h.outstanding_nil.1]
  | cons text texts ih =>
      rcases fed : { r with queue := [] }.feed text with ⟨fault, r'⟩
      have silent : (fault.toList.map .error : List (Except Error (List Char))).filterMap
          Except.toOption = [] := by cases fault <;> rfl
      rw [answers_cons fed, outstanding_cons fed, List.filterMap_append, List.filterMap_append,
        filterMap_map_ok, silent, ih (isDrained_of_feed fed), List.append_nil]

/-- An error among the answers is the one that shows in the end. -/
theorem fault_of_mem_answers {e : Error} (h : .error e ∈ r.answers texts) :
    (r.outstanding texts.flatten).2.2 = some e := by
  induction texts generalizing r with
  | nil =>
      obtain ⟨message, -, same⟩ := List.mem_map.mp h
      cases same
  | cons text texts ih =>
      rcases fed : { r with queue := [] }.feed text with ⟨fault, r'⟩
      rw [answers_cons fed, List.mem_append, List.mem_append] at h
      rw [outstanding_cons fed]
      rcases h with (queued | shown) | later
      · obtain ⟨message, -, same⟩ := List.mem_map.mp queued
        cases same
      · obtain ⟨_, member, same⟩ := List.mem_map.mp shown
        cases same
        obtain rfl := Option.mem_toList.mp member
        exact outstanding_of_bad (parse_buffer_of_feed fed) _
      · exact ih later

/-- The error that shows in the end is among the answers. -/
theorem mem_answers_of_fault (h : r.IsClean) {e : Error}
    (shows : (r.outstanding texts.flatten).2.2 = some e) : .error e ∈ r.answers texts := by
  induction texts generalizing r with
  | nil =>
      rw [List.flatten_nil, Receiver.outstanding_nil h] at shows
      cases shows
  | cons text texts ih =>
      rcases fed : { r with queue := [] }.feed text with ⟨fault, r'⟩
      rw [outstanding_cons fed] at shows
      rw [answers_cons fed, List.mem_append, List.mem_append]
      cases fault with
      | none => exact .inr (ih (isClean_of_feed fed) shows)
      | some x =>
          have same := outstanding_of_bad (parse_buffer_of_feed fed) texts.flatten
          obtain rfl := Option.some.inj (same.symm.trans shows)
          exact .inl (.inr (List.mem_map.mpr ⟨x, by simp, rfl⟩))

/-! ## The first error -/

/-- The answers begin with what is queued. -/
theorem exists_answers_eq (r : Receiver) (texts : List (List Char)) :
    ∃ rest, r.answers texts = r.queue.map .ok ++ rest := by
  cases texts with
  | nil => exact ⟨[], (List.append_nil _).symm⟩
  | cons text texts =>
      rcases fed : { r with queue := [] }.feed text with ⟨fault, r'⟩
      refine ⟨fault.toList.map .error ++ r'.answers texts, ?_⟩
      rw [answers_cons fed, List.append_assoc]

/-- While no error shows, the answers are messages, those that are whole up to then if what is
queued is counted with them. -/
theorem answers_append (clean : r.IsClean) {before : List (List Char)}
    (fine : (r.outstanding before.flatten).2.2 = none) (after : List (List Char)) :
    ∃ (given : List (List Char)) (r' : Receiver),
      r.answers (before ++ after) = given.map .ok ++ r'.answers after ∧
      given ++ r'.queue = (r.outstanding before.flatten).1 ∧
      r'.buffer = (r.outstanding before.flatten).2.1 := by
  induction before generalizing r with
  | nil =>
      obtain ⟨queue, buffer⟩ := clean.isDrained.outstanding_nil
      exact ⟨[], r, rfl, queue.symm, buffer.symm⟩
  | cons text before ih =>
      rcases fed : { r with queue := [] }.feed text with ⟨fault, r₁⟩
      rw [outstanding_cons fed] at fine ⊢
      cases fault with
      | some x =>
          have shows := outstanding_of_bad (parse_buffer_of_feed fed) before.flatten
          cases fine.symm.trans shows
      | none =>
          obtain ⟨given, r', same, queue, buffer⟩ := ih (isClean_of_feed fed) fine
          refine ⟨r.queue ++ given, r', ?_, ?_, buffer⟩
          · rw [List.cons_append, answers_cons fed, same]
            simp
          · rw [List.append_assoc, queue]

/-- A piece is the first to show an error. Some messages are whole before it, and some become whole
with it. -/
inductive ShowsWith : List (List Char) → List (List Char) → List (List Char) → Error → Prop where
  | piece {before after early late : List (List Char)} {text left left' : List Char} {x : Error}
      (fine : Parses before.flatten early left none)
      (wrong : Parses (before.flatten ++ text) (early ++ late) left' (some x)) :
      ShowsWith (before ++ text :: after) early late x

variable {early late bodies : List (List Char)} {left : List Char} {x : Error}

/-- The messages that become whole with the error come after it. -/
theorem ShowsWith.exists_answers_eq (h : ShowsWith texts early late x) :
    ∃ rest, answers {} texts = early.map .ok ++ .error x :: (late.map .ok ++ rest) := by
  obtain @⟨before, after, early, late, text, left, left', x, fine, wrong⟩ := h
  have first : outstanding {} before.flatten = (early, left, none) := fine.split_eq
  obtain ⟨given, r', same, queue, buffer⟩ :=
    answers_append (r := {}) rfl (by rw [first]) (text :: after)
  rw [first] at queue buffer
  have taken : split (left ++ text) = (late, left', some x) := by
    have whole := split_append before.flatten text
    rw [wrong.split_eq, fine.split_eq] at whole
    obtain ⟨bodies, rest⟩ := Prod.mk.inj whole
    exact Prod.ext (List.append_cancel_left bodies).symm rest.symm
  have fed : feed { r' with queue := [] } text = (some x, { buffer := left', queue := late }) := by
    rw [feed, buffer, taken]
    rfl
  obtain ⟨rest, later⟩ := Receiver.exists_answers_eq { buffer := left', queue := late } after
  refine ⟨rest, ?_⟩
  rw [same, answers_cons fed, later, ← show given ++ r'.queue = early from queue]
  simp

/-- With the error all messages are known. -/
theorem ShowsWith.exists_parses (h : ShowsWith texts early late x) :
    ∃ left, Parses texts.flatten (early ++ late) left (some x) := by
  obtain @⟨before, after, early, late, text, left, left', x, fine, wrong⟩ := h
  refine ⟨left' ++ after.flatten, parses_iff.mpr ?_⟩
  have bad := parse_left (before.flatten ++ text)
  rw [wrong.split_eq] at bad
  have rest := split_of_bad (parse_append_of_bad bad after.flatten)
  rw [List.flatten_append, List.flatten_cons, ← List.append_assoc, split_append, wrong.split_eq,
    rest, List.append_nil]

theorem exists_showsWith (before : List (List Char)) (fine : Parses before.flatten early left none)
    {left' : List Char} (wrong : Parses (before ++ texts).flatten bodies left' (some x)) :
    ∃ early late, bodies = early ++ late ∧ ShowsWith (before ++ texts) early late x := by
  induction texts generalizing before early left with
  | nil =>
      rw [List.append_nil] at wrong
      cases fine.split_eq.symm.trans wrong.split_eq
  | cons text texts ih =>
      have cut : before ++ text :: texts = (before ++ [text]) ++ texts := by simp
      have joined : (before ++ [text]).flatten = before.flatten ++ text := by simp
      have said := parses_split (before.flatten ++ text)
      have more := split_append before.flatten text
      rw [fine.split_eq] at more
      generalize split (before.flatten ++ text) = taken at said more
      obtain ⟨bodies', left₁, fault⟩ := taken
      cases fault with
      | none => exact cut ▸ ih _ (joined ▸ said) (cut ▸ wrong)
      | some y =>
          obtain ⟨rfl, -⟩ := Prod.mk.inj more
          have shows : ShowsWith (before ++ text :: texts) early _ y := .piece fine said
          obtain ⟨_, whole⟩ := shows.exists_parses
          cases whole.split_eq.symm.trans wrong.split_eq
          exact ⟨early, _, rfl, shows⟩

theorem eq_of_map_ok_append_error {early early' : List (List Char)} {x x' : Error}
    {rest rest' : List (Except Error (List Char))}
    (h : early.map .ok ++ .error x :: rest = early'.map .ok ++ .error x' :: rest') :
    early = early' ∧ x = x' := by
  induction early generalizing early' with
  | nil =>
      cases early' with
      | nil => exact ⟨rfl, by simpa using (List.cons.inj h).1⟩
      | cons => simp at h
  | cons message early ih =>
      cases early' with
      | nil => simp at h
      | cons message' early' =>
          obtain ⟨first, later⟩ := List.cons.inj h
          obtain ⟨rfl, rfl⟩ := ih later
          exact ⟨by rw [Except.ok.inj first], rfl⟩

/-- There is one error that shows first, and one piece that shows it. -/
theorem ShowsWith.unique {early' late' : List (List Char)} {x' : Error}
    (h : ShowsWith texts early late x) (h' : ShowsWith texts early' late' x') :
    early = early' ∧ late = late' ∧ x = x' := by
  obtain ⟨_, answered⟩ := h.exists_answers_eq
  obtain ⟨_, answered'⟩ := h'.exists_answers_eq
  obtain ⟨rfl, rfl⟩ := eq_of_map_ok_append_error (answered.symm.trans answered')
  obtain ⟨_, said⟩ := h.exists_parses
  obtain ⟨_, said'⟩ := h'.exists_parses
  have same := said.split_eq.symm.trans said'.split_eq
  exact ⟨rfl, List.append_cancel_left (congrArg Prod.fst same), rfl⟩

end Receiver

namespace Reception

open Receiver

variable {s : Reception} {texts : List (List Char)} {tail : List Channel.Arrival}
variable {e : Channel.Error} {after : Channel}

/-! ### One call -/

theorem turn_call_of_queue {message : List Char} {rest : List (List Char)}
    (h : s.receiver.queue = message :: rest) :
    s.turn .call =
      { s with
        receiver := { s.receiver with queue := rest }
        results := s.results ++ [.ok message] } := by
  rw [turn, receive_of_queue h]
  rfl

section Empty

variable {r r' : Receiver} {c : Channel} {text : List Char}

theorem receive_channel_of_text (connected : c.isConnected)
    (arrives : c.incoming = (text :: texts).map .text ++ tail) :
    c.receive = (.done text, { c with incoming := texts.map .text ++ tail }) := by
  rw [Channel.receive, if_neg (by simp [connected]), Channel.takeArrived, arrives]
  rfl

/-- The call ends with the error; messages before it are left to the next calls. -/
theorem turn_call_of_fault {x : Error} (empty : r.queue = []) (connected : c.isConnected)
    (arrives : c.incoming = (text :: texts).map .text ++ tail) (fed : r.feed text = (some x, r'))
    (results : List (Except Error (List Char))) :
    turn { channel := c, receiver := r, results } .call =
      { channel := { c with incoming := texts.map .text ++ tail }
        receiver := r'
        results := results ++ [.error x] } := by
  rw [turn, receive_of_fault empty connected (receive_channel_of_text connected arrives) fed]
  rfl

/-- The call goes on with the next text, as one that begins there. -/
theorem turn_call_of_feed (empty : r.queue = []) (connected : c.isConnected)
    (arrives : c.incoming = (text :: texts).map .text ++ tail) (fed : r.feed text = (none, r'))
    (results : List (Except Error (List Char))) :
    turn { channel := c, receiver := r, results } .call =
      turn
        { channel := { c with incoming := texts.map .text ++ tail }, receiver := r', results }
        .call := by
  rw [turn, turn,
    receive_of_feed empty connected (receive_channel_of_text connected arrives) fed]
  rfl

end Empty

/-! ### Calls until the channel gives up -/

/-- Calls until the channel gives up give the answers and then the error of the channel. -/
def GivesAll (texts : List (List Char)) (e : Channel.Error) (after : Channel) (s : Reception) :
    Prop :=
  s.run (List.replicate ((s.receiver.answers texts).length + 1) .call) =
    { channel := after
      receiver := { buffer := (s.receiver.outstanding texts.flatten).2.1 }
      results := s.results ++ s.receiver.answers texts ++ [.error (.channel e)] }

/-- A queued message is given before anything else happens. -/
theorem GivesAll.of_queue {message : List Char} {rest : List (List Char)}
    (h : s.receiver.queue = message :: rest)
    (later : GivesAll texts e after
      { s with
        receiver := { s.receiver with queue := rest }
        results := s.results ++ [.ok message] }) : GivesAll texts e after s := by
  unfold GivesAll at later ⊢
  rw [answers_of_queue h, List.length_cons, List.replicate_succ, outstanding_of_queue h]
  refine (congrArg (fun s => Reception.run s _) (turn_call_of_queue h)).trans (later.trans ?_)
  simp

theorem GivesAll.of_empty {c : Channel} {buffer : List Char}
    (emptied : ∀ results, GivesAll texts e after { channel := c, receiver := { buffer }, results })
    (queue : List (List Char)) (results : List (Except Error (List Char))) :
    GivesAll texts e after { channel := c, receiver := { buffer, queue }, results } := by
  induction queue generalizing results with
  | nil => exact emptied results
  | cons message rest ih => exact .of_queue rfl (ih _)

theorem givesAll {c : Channel} {r : Receiver} (connected : c.isConnected)
    (arrives : c.incoming = texts.map .text ++ tail)
    (ends : Channel.receive { c with incoming := tail } = (.failed e, after))
    (drained : r.IsDrained) (results : List (Except Error (List Char))) :
    GivesAll texts e after { channel := c, receiver := r, results } := by
  induction texts generalizing c r results with
  | nil =>
      refine GivesAll.of_empty (fun results => ?_) r.queue results
      have failed : c.receive = (.failed e, after) := by
        rw [← ends, ← show c.incoming = tail from arrives]
      have call : turn { channel := c, receiver := { buffer := r.buffer }, results } .call =
          { channel := after, receiver := { buffer := r.buffer },
            results := results ++ [.error (.channel e)] } := by
        rw [turn, receive_of_failed rfl connected failed]
        rfl
      have drained' : IsDrained { buffer := r.buffer } := drained
      refine call.trans ?_
      rw [List.flatten_nil, drained'.outstanding_nil.2]
      simp [answers]
  | cons text texts ih =>
      refine GivesAll.of_empty (fun results => ?_) r.queue results
      rcases fed : Receiver.feed { buffer := r.buffer } text with ⟨fault, r'⟩
      have later := ih (c := { c with incoming := texts.map .text ++ tail }) connected rfl ends
        (isDrained_of_feed fed)
      have given : answers { buffer := r.buffer } (text :: texts) =
          fault.toList.map .error ++ r'.answers texts :=
        answers_cons (r := { buffer := r.buffer }) fed
      have left : outstanding { buffer := r.buffer } (text :: texts).flatten =
          r'.outstanding texts.flatten := by rw [List.flatten_cons, ← outstanding_feed, fed]
      unfold GivesAll at later ⊢
      dsimp only at later ⊢
      rw [given, left]
      cases fault with
      | some x =>
          have call := turn_call_of_fault rfl connected arrives fed results
          refine (congrArg (fun s => Reception.run s _) call).trans ((later _).trans ?_)
          simp
      | none =>
          have call := turn_call_of_feed rfl connected arrives fed results
          exact (congrArg (fun s => Reception.run s _) call).trans (later results)

/-- A text is cut into pieces in some way, and when they have been received the channel, connected
up to then, reports an error. What the text says is one thing only (the bodies, what is left, what
is wrong with that), and the calls of a receiver up to the first one that gives the error of the
channel give the bodies in order. They give an error of frames exactly if something is wrong, and
then no other one; in the end the buffer is what is left, and nothing is queued. -/
theorem receive_until_failure {c : Channel} (connected : c.isConnected)
    {texts : List (List Char)} {tail : List Channel.Arrival}
    (arrives : c.incoming = texts.map .text ++ tail) {e : Channel.Error} {after : Channel}
    (ends : Channel.receive { c with incoming := tail } = (.failed e, after)) :
    ∃ bodies left fault,
      (∀ bs l f, Parses texts.flatten bs l f ↔ bs = bodies ∧ l = left ∧ f = fault) ∧
      ∃ results : List (Except Error (List Char)),
        run { channel := c } (List.replicate (results.length + 1) .call) =
          { channel := after
            receiver := { buffer := left }
            results := results ++ [.error (.channel e)] } ∧
        (∀ failure, .error (.channel failure) ∉ results) ∧
        results.filterMap Except.toOption = bodies ∧
        ∀ x, .error x ∈ results ↔ fault = some x := by
  have clean : IsClean {} := rfl
  have whole : outstanding {} texts.flatten = split texts.flatten := rfl
  rcases taken : split texts.flatten with ⟨bodies, left, fault⟩
  have said : Parses texts.flatten bodies left fault := parses_iff.mpr taken
  rw [taken] at whole
  have shown : ∀ x, .error x ∈ answers {} texts ↔ fault = some x := by
    intro x
    constructor
    · intro member
      have shows := fault_of_mem_answers member
      rwa [whole] at shows
    · exact fun shows => mem_answers_of_fault clean (by rw [whole, shows])
  refine ⟨bodies, left, fault, fun bs l f => ?_, answers {} texts, ?_, ?_, ?_, shown⟩
  · rw [parses_iff, taken, Prod.mk.injEq, Prod.mk.injEq, eq_comm, @eq_comm _ left,
      @eq_comm _ fault]
  · refine (givesAll connected arrives ends clean.isDrained []).trans ?_
    rw [whole]
    rfl
  · exact fun failure member => said.fault_ne_channel failure ((shown _).mp member)
  · rw [filterMap_answers clean.isDrained, whole]

/-- A frame whose header is cut by an empty piece, and then a header without a length. The error
comes first, for it is found with the body, and again with the last piece, which is empty. -/
theorem receive_until_failure_malformed :
    let texts := ["Content-Le".toList, [], "ngth: 2\r\n\r\nokX: 1\r\n\r\n".toList, []]
    let c : Channel := { incoming := texts.map .text, reader := { finished := true } }
    c.isConnected ∧ c.incoming = texts.map .text ++ [] ∧
      Channel.receive { c with incoming := [] } =
        (.failed .disconnected, { c with incoming := [] }) ∧
      Parses texts.flatten ["ok".toList] "X: 1\r\n\r\n".toList (some .noLength) ∧
      ∃ results : List (Except Error (List Char)),
        (run { channel := c } (List.replicate (results.length + 1) .call)).results =
          results ++ [.error (.channel .disconnected)] ∧
        results.filterMap Except.toOption = ["ok".toList] ∧ .error .noLength ∈ results := by
  intro texts c
  have connected : c.isConnected := rfl
  have arrives : c.incoming = texts.map .text ++ [] := rfl
  have ends : Channel.receive { c with incoming := [] } =
      (.failed .disconnected, { c with incoming := [] }) := rfl
  have said : Parses texts.flatten ["ok".toList] "X: 1\r\n\r\n".toList (some .noLength) :=
    parses_iff.mpr (by decide +kernel)
  obtain ⟨bodies, left, fault, only, results, calls, -, messages, errors⟩ :=
    receive_until_failure connected arrives ends
  obtain ⟨rfl, rfl, rfl⟩ := (only _ _ _).mp said
  exact ⟨connected, arrives, ends, said, results, congrArg Reception.results calls, messages,
    (errors _).mpr rfl⟩

/-! ### Calls up to the first error -/

/-- One call gives the first of the answers, and leaves the others. -/
theorem exists_turn_call {c : Channel} {r : Receiver} (connected : c.isConnected)
    (arrives : c.incoming = texts.map .text ++ tail) {answer : Except Error (List Char)}
    {rest : List (Except Error (List Char))} (due : r.answers texts = answer :: rest)
    (results : List (Except Error (List Char))) :
    ∃ (c' : Channel) (r' : Receiver) (texts' : List (List Char)),
      turn { channel := c, receiver := r, results } .call =
        { channel := c', receiver := r', results := results ++ [answer] } ∧
      c'.isConnected ∧ c'.incoming = texts'.map .text ++ tail ∧ r'.answers texts' = rest := by
  induction texts generalizing c r with
  | nil =>
      cases queued : r.queue with
      | nil => simp [answers, queued] at due
      | cons message queue =>
          obtain ⟨rfl, rest⟩ := List.cons.inj ((answers_of_queue queued).symm.trans due)
          exact ⟨c, _, [], turn_call_of_queue queued, connected, arrives, rest⟩
  | cons text texts ih =>
      cases queued : r.queue with
      | nil =>
          have alone : r = { r with queue := [] } := by rw [← queued]
          rcases fed : r.feed text with ⟨fault, r'⟩
          have given : r.answers (text :: texts) = _ := answers_cons (alone ▸ fed)
          rw [due, queued] at given
          cases fault with
          | some x =>
              obtain ⟨rfl, rest⟩ := List.cons.inj given
              exact ⟨_, r', texts, turn_call_of_fault queued connected arrives fed results,
                connected, rfl, rest.symm⟩
          | none =>
              obtain ⟨c', r'', texts', call, still, left, rest⟩ :=
                ih (c := { c with incoming := texts.map .text ++ tail }) connected rfl given.symm
              exact ⟨c', r'', texts',
                (turn_call_of_feed queued connected arrives fed results).trans call, still, left,
                rest⟩
      | cons message queue =>
          obtain ⟨rfl, rest⟩ := List.cons.inj ((answers_of_queue queued).symm.trans due)
          exact ⟨c, _, text :: texts, turn_call_of_queue queued, connected, arrives, rest⟩

/-- As many calls as there are first answers give these. -/
theorem results_of_answers {c : Channel} {r : Receiver} (connected : c.isConnected)
    (arrives : c.incoming = texts.map .text ++ tail)
    {first rest : List (Except Error (List Char))} (due : r.answers texts = first ++ rest)
    (results : List (Except Error (List Char))) :
    (run { channel := c, receiver := r, results } (List.replicate first.length .call)).results =
      results ++ first := by
  induction first generalizing c r texts results with
  | nil => exact (List.append_nil _).symm
  | cons answer first ih =>
      obtain ⟨c', r', texts', call, still, left, later⟩ :=
        exists_turn_call connected arrives due results
      have rest := ih still left later (results ++ [answer])
      rw [List.append_assoc, List.singleton_append] at rest
      exact (congrArg (fun s => (Reception.run s _).results) call).trans rest

/-- A text that ends badly arrives in some pieces. One piece is the first to show the error, and
calls give the messages that are whole before it, then the error, and only after it the messages
that become whole with that piece. So the error comes after all messages of the text exactly if no
message ends in the piece that shows it. -/
theorem error_last_iff {c : Channel} (connected : c.isConnected) {texts : List (List Char)}
    {tail : List Channel.Arrival} (arrives : c.incoming = texts.map .text ++ tail)
    {bodies : List (List Char)} {left : List Char} {x : Error}
    (wrong : Parses texts.flatten bodies left (some x)) :
    let results := (run { channel := c } (List.replicate (bodies.length + 1) .call)).results
    ∃ early late, bodies = early ++ late ∧
      (∀ es ls y, ShowsWith texts es ls y ↔ es = early ∧ ls = late ∧ y = x) ∧
      results = early.map .ok ++ .error x :: late.map .ok ∧
      (results = bodies.map .ok ++ [.error x] ↔ late = []) := by
  intro results
  have nothing : Parses [].flatten [] [] none := parses_iff.mpr (by decide +kernel)
  obtain ⟨early, late, rfl, shows⟩ := exists_showsWith [] nothing wrong
  rw [List.nil_append] at shows
  have given : results = early.map .ok ++ .error x :: late.map .ok := by
    obtain ⟨rest, answered⟩ := shows.exists_answers_eq
    have due : Receiver.answers {} texts =
        (early.map .ok ++ .error x :: late.map .ok) ++ rest := by
      rw [answered]
      simp
    have calls := results_of_answers connected arrives due []
    have count : (early ++ late).length + 1 =
        (early.map .ok ++ .error x :: late.map .ok : List (Except Error (List Char))).length := by
      simp [Nat.add_assoc]
    rw [← count, List.nil_append] at calls
    exact calls
  refine ⟨early, late, rfl, fun es ls y => ⟨fun other => ?_, ?_⟩, given, ?_⟩
  · exact other.unique shows
  · rintro ⟨rfl, rfl, rfl⟩
    exact shows
  · rw [given]
    constructor
    · intro same
      rw [List.map_append, List.append_assoc] at same
      cases late with
      | nil => rfl
      | cons => simp at same
    · rintro rfl
      simp

/-- Two messages and a length that is no number, in two pieces. The second message ends in the piece
that shows the error. -/
theorem error_last_iff_second_piece :
    let texts := ["Content-Length: 2\r\n\r\n[]".toList,
      "Content-Length: 2\r\n\r\n[1Content-Length: x\r\n\r\n".toList]
    let c : Channel := { incoming := texts.map .text }
    let x : Error := .invalidLength "x"
    c.isConnected ∧ c.incoming = texts.map .text ++ [] ∧
      Parses texts.flatten ["[]".toList, "[1".toList] "Content-Length: x\r\n\r\n".toList (some x) ∧
      ShowsWith texts ["[]".toList] ["[1".toList] x ∧
      (run { channel := c } [.call, .call, .call]).results =
        [.ok "[]".toList, .error x, .ok "[1".toList] := by
  intro texts c x
  have connected : c.isConnected := rfl
  have arrives : c.incoming = texts.map .text ++ [] := rfl
  have wrong : Parses texts.flatten ["[]".toList, "[1".toList]
      "Content-Length: x\r\n\r\n".toList (some x) := parses_iff.mpr (by decide +kernel)
  have fine : Parses ["Content-Length: 2\r\n\r\n[]".toList].flatten ["[]".toList] [] none :=
    parses_iff.mpr (by decide +kernel)
  have shows : ShowsWith ([_] ++ _ :: []) ["[]".toList] ["[1".toList] x := .piece fine wrong
  obtain ⟨early, late, -, only, calls, -⟩ := error_last_iff connected arrives wrong
  obtain ⟨rfl, rfl, -⟩ := (only _ _ _).mp shows
  exact ⟨connected, arrives, wrong, shows, calls⟩

/-- A message and then a length that is no number: in one piece the error comes first, in two pieces
the message does. -/
theorem error_before_message :
    let message := "Content-Length: 2\r\n\r\n[]".toList
    let wrong := "Content-Length: x\r\n\r\n".toList
    let results := fun texts : List (List Char) =>
      (run { channel := { incoming := texts.map .text } } [.call, .call]).results
    [message ++ wrong].flatten = [message, wrong].flatten ∧
      results [message ++ wrong] = [.error (.invalidLength "x"), .ok "[]".toList] ∧
      results [message, wrong] = [.ok "[]".toList, .error (.invalidLength "x")] := by
  intro message wrong results
  have fed : feed {} (message ++ wrong) =
      (some (.invalidLength "x"), { buffer := wrong, queue := ["[]".toList] }) := by decide +kernel
  have first : feed {} message = (none, { queue := ["[]".toList] }) := by decide +kernel
  have second : feed {} wrong = (some (.invalidLength "x"), { buffer := wrong }) := by
    decide +kernel
  have joined : answers {} [message ++ wrong] =
      [.error (.invalidLength "x"), .ok "[]".toList] ++ [] := by
    rw [answers_cons (r := {}) fed]
    rfl
  have apart : answers {} [message, wrong] =
      [.ok "[]".toList, .error (.invalidLength "x")] ++ [] := by
    rw [answers_cons (r := {}) first]
    exact congrArg (.ok "[]".toList :: ·) (answers_cons (r := {}) second)
  exact ⟨by simp, results_of_answers rfl (List.append_nil _).symm joined [],
    results_of_answers rfl (List.append_nil _).symm apart []⟩

end Reception

end RLanguageHost.Frame
