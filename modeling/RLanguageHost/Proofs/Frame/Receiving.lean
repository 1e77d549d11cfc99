import RLanguageHost.Proofs.Channel.Arrivals
import RLanguageHost.Proofs.Frame.Splitting

/-!
# Receiving by and by

A receiver takes frames off whatever text it has, and keeps the rest. `outstanding` is what it will
have given when some more text has arrived; feeding it a piece of that text does not change this
(`outstanding_feed`), so the pieces do not matter.

`Received` lists how a call can end on a channel that holds some texts, with what each ending leaves
outstanding. It holds for any texts, well framed or not.
-/

namespace RLanguageHost.Frame.Receiver

/-- What a receiver will have given when some more text has arrived: the messages, the text that is
left then, and the error that shows. -/
def outstanding (r : Receiver) (pending : List Char) :
    List (List Char) × List Char × Option Error :=
  (r.queue ++ (split (r.buffer ++ pending)).1, (split (r.buffer ++ pending)).2)

/-- Feeding a receiver changes nothing about what it gives in the end. -/
theorem outstanding_feed (r : Receiver) (text pending : List Char) :
    (r.feed text).2.outstanding pending = r.outstanding (text ++ pending) := by
  simp only [feed, outstanding]
  rw [← List.append_assoc r.buffer, split_append (r.buffer ++ text) pending, List.append_assoc]

theorem outstanding_of_queue {r : Receiver} {message : List Char} {rest : List (List Char)}
    (h : r.queue = message :: rest) (pending : List Char) :
    r.outstanding pending =
      (message :: ({ r with queue := rest }.outstanding pending).1,
        ({ r with queue := rest }.outstanding pending).2) := by
  simp [outstanding, h]

/-- A receiver that holds no whole frame and no error. -/
def IsClean (r : Receiver) : Prop :=
  parse r.buffer = .incomplete

theorem parse_buffer_of_feed {r r' : Receiver} {text : List Char} {fault : Option Error}
    (h : r.feed text = (fault, r')) : parse r'.buffer = fault.elim .incomplete .bad := by
  simp only [feed, Prod.mk.injEq] at h
  obtain ⟨rfl, rfl⟩ := h
  exact parse_left _

theorem isClean_of_feed {r r' : Receiver} {text : List Char} (h : r.feed text = (none, r')) :
    r'.IsClean :=
  parse_buffer_of_feed h

/-- An error stays, whatever follows it. -/
theorem outstanding_of_bad {r : Receiver} {e : Error} (h : parse r.buffer = .bad e)
    (pending : List Char) : (r.outstanding pending).2.2 = some e := by
  rw [outstanding, split_of_bad (parse_append_of_bad h pending)]

/-- A clean receiver with nothing to come gives what it has queued. -/
theorem outstanding_nil {r : Receiver} (h : r.IsClean) :
    r.outstanding [] = (r.queue, r.buffer, none) := by
  simp [outstanding, split_of_incomplete h]

/-! ## Calls -/

/-- A call only uses up what has arrived. -/
theorem receive_same (r : Receiver) (c : Channel) :
    ∃ incoming, (r.receive c).2.2 = { c with incoming } := by
  fun_induction receive r c with
  | case1 r c => exact ⟨c.incoming, rfl⟩
  | case2 r c => exact ⟨c.incoming, rfl⟩
  | case3 r c _ _ c' arrived | case4 r c _ _ _ c' arrived | case5 r c _ _ _ c' arrived =>
      obtain ⟨incoming, same⟩ := c.receive_same
      rw [arrived] at same
      exact ⟨incoming, same⟩
  | case6 r c _ _ text c' arrived r' fed ih =>
      obtain ⟨incoming, same⟩ := c.receive_same
      rw [arrived] at same
      obtain ⟨later, goesOn⟩ := ih
      exact ⟨later, goesOn.trans (by rw [show c' = _ from same])⟩

theorem resume_same (r : Receiver) (c : Channel) (sight : Channel.Sight) :
    ∃ incoming, (r.resume c sight).2.2 = { c with incoming } := by
  obtain ⟨incoming, same⟩ := c.resume_same sight
  rw [resume]
  split
  · next arrived =>
    rw [arrived] at same
    exact ⟨incoming, same⟩
  · next arrived =>
    rw [arrived] at same
    exact ⟨incoming, same⟩
  · next text c' arrived =>
    rw [arrived] at same
    split
    · exact ⟨incoming, same⟩
    · next r' _ =>
      obtain ⟨later, goesOn⟩ := r'.receive_same c'
      exact ⟨later, goesOn.trans (by rw [show c' = _ from same])⟩

theorem receive_of_queue {r : Receiver} {message : List Char} {rest : List (List Char)}
    (h : r.queue = message :: rest) (c : Channel) :
    r.receive c = (.done message, { r with queue := rest }, c) := by
  rw [receive]
  split <;> simp_all

section Empty

variable {r r' : Receiver} {c c' : Channel} {text : List Char}

/-- What a call does that finds nothing in the queue. -/
theorem receive_of_empty (empty : r.queue = []) (connected : c.isConnected) :
    r.receive c =
      match c.receive with
      | (.waiting, c) => (.waiting, r, c)
      | (.failed e, c) => (.failed (.channel e), r, c)
      | (.done text, c) =>
        match r.feed text with
        | (some e, r) => (.failed e, r, c)
        | (none, r) => r.receive c := by
  rw [receive]
  split
  · simp_all
  · rw [if_neg (by simpa using connected)]
    split
    · next waits => rw [waits]
    · next failed => rw [failed]
    · next text _ arrived => rcases fed : r.feed text with ⟨_ | e, r'⟩ <;> simp only [arrived, fed]

theorem receive_of_waiting (empty : r.queue = []) (connected : c.isConnected)
    (waits : c.receive = (.waiting, c')) : r.receive c = (.waiting, r, c') := by
  rw [receive_of_empty empty connected, waits]

theorem receive_of_failed {e : Channel.Error} (empty : r.queue = []) (connected : c.isConnected)
    (failed : c.receive = (.failed e, c')) : r.receive c = (.failed (.channel e), r, c') := by
  rw [receive_of_empty empty connected, failed]

theorem receive_of_fault {e : Error} (empty : r.queue = []) (connected : c.isConnected)
    (arrived : c.receive = (.done text, c')) (fed : r.feed text = (some e, r')) :
    r.receive c = (.failed e, r', c') := by
  rw [receive_of_empty empty connected, arrived]
  dsimp only
  rw [fed]

theorem receive_of_feed (empty : r.queue = []) (connected : c.isConnected)
    (arrived : c.receive = (.done text, c')) (fed : r.feed text = (none, r')) :
    r.receive c = r'.receive c' := by
  rw [receive_of_empty empty connected, arrived]
  dsimp only
  rw [fed]

theorem receive_of_none (empty : r.queue = []) (nothing : c.Holds []) :
    r.receive c =
      (if c.reader.finished then .failed (.channel .disconnected) else .waiting, r, c) := by
  rw [receive_of_empty empty nothing.connected, nothing.receive_nil]
  cases c.reader.finished <;> rfl

/-- A call waits only if nothing is queued. -/
theorem queue_of_receive_waiting (waits : (r.receive c).1 = .waiting) : r.queue = [] := by
  cases queued : r.queue with
  | nil => rfl
  | cons message rest =>
      rw [receive_of_queue queued] at waits
      cases waits

/-- A call that has to wait has to wait again if nothing happens. -/
theorem waits_again (waits : r.receive c = (.waiting, r', c')) :
    r'.receive c' = (.waiting, r', c') := by
  fun_induction receive r c with
  | case1 => cases waits
  | case2 => cases waits
  | case3 r c empty connected c₁ received =>
      cases waits
      obtain rfl := Channel.eq_of_receive_waiting received
      exact receive_of_waiting empty (by simpa using connected) received
  | case4 => cases waits
  | case5 => cases waits
  | case6 _ _ _ _ _ _ _ _ _ ih => exact ih waits

/-- The same for a call that goes on waiting. -/
theorem waits_again_of_resume {sight : Channel.Sight} (empty : r.queue = [])
    (waits : r.resume c sight = (.waiting, r', c')) : r'.receive c' = (.waiting, r', c') := by
  rw [resume] at waits
  split at waits
  · next goesOn =>
    obtain ⟨rfl, connected, received⟩ := Channel.receive_of_resume_waiting goesOn
    cases waits
    exact receive_of_waiting empty connected received
  · cases waits
  · split at waits
    · cases waits
    · exact waits_again waits

end Empty

/-- How a call of a receiver ends whose channel holds some texts. The rest of the texts stays, and
what is outstanding is accounted for. -/
inductive Received (r : Receiver) (c : Channel) (texts : List (List Char)) :
    Attempt Error (List Char) × Receiver × Channel → Prop where
  | message {message : List Char} {r' : Receiver} {c' : Channel} {rest : List (List Char)}
      (stays : c' = { c with incoming := rest.map .text }) (clean : r.IsClean → r'.IsClean)
      (account : ∀ more, r.outstanding (texts.flatten ++ more) =
        (message :: (r'.outstanding (rest.flatten ++ more)).1,
          (r'.outstanding (rest.flatten ++ more)).2)) :
      Received r c texts (.done message, r', c')
  /-- All texts are used up and hold no further message. -/
  | waiting {r' : Receiver} {c' : Channel} (stays : c' = { c with incoming := [] })
      (clean : r.IsClean → r'.IsClean) (empty : r'.queue = []) (reading : c.reader.finished = false)
      (account : ∀ more, r.outstanding (texts.flatten ++ more) = r'.outstanding more) :
      Received r c texts (.waiting, r', c')
  /-- The same, and no more text can arrive. -/
  | disconnected {r' : Receiver} {c' : Channel} (stays : c' = { c with incoming := [] })
      (clean : r.IsClean → r'.IsClean) (empty : r'.queue = []) (done : c.reader.finished)
      (account : ∀ more, r.outstanding (texts.flatten ++ more) = r'.outstanding more) :
      Received r c texts (.failed (.channel .disconnected), r', c')
  | fault {e : Error} {r' : Receiver} {c' : Channel} {rest : List (List Char)}
      (stays : c' = { c with incoming := rest.map .text })
      (account : ∀ more, (r.outstanding (texts.flatten ++ more)).2.2 = some e) :
      Received r c texts (.failed e, r', c')

/-- Text that was taken from the channel before a call counts as taken by the call. -/
theorem Received.of_feed {r r' : Receiver} {c : Channel} {text : List Char}
    {texts : List (List Char)} {outcome : Attempt Error (List Char) × Receiver × Channel}
    (fed : r.feed text = (none, r'))
    (h : Received r' { c with incoming := texts.map .text } texts outcome) :
    Received r c (text :: texts) outcome := by
  have account : ∀ more, r.outstanding ((text :: texts).flatten ++ more) =
      r'.outstanding (texts.flatten ++ more) := by
    intro more
    rw [List.flatten_cons, List.append_assoc, ← outstanding_feed, fed]
  have clean : r'.IsClean := isClean_of_feed fed
  cases h with
  | message stays clean' account' =>
      exact .message stays (fun _ => clean' clean) fun more => (account more).trans (account' more)
  | waiting stays clean' empty reading account' =>
      exact .waiting stays (fun _ => clean' clean) empty reading fun more =>
        (account more).trans (account' more)
  | disconnected stays clean' empty done account' =>
      exact .disconnected stays (fun _ => clean' clean) empty done fun more =>
        (account more).trans (account' more)
  | fault stays account' =>
      exact .fault stays fun more => by rw [account more, account' more]

theorem received {r : Receiver} {c : Channel} {texts : List (List Char)} (h : c.Holds texts) :
    Received r c texts (r.receive c) := by
  induction texts generalizing r c with
  | nil =>
      cases hq : r.queue with
      | cons message rest =>
          rw [receive_of_queue hq]
          exact .message h.eq_self id fun more => outstanding_of_queue hq _
      | nil =>
          rw [receive_of_none hq h]
          cases done : c.reader.finished with
          | false => exact .waiting h.eq_self id hq done fun _ => rfl
          | true => exact .disconnected h.eq_self id hq done fun _ => rfl
  | cons text texts ih =>
      cases hq : r.queue with
      | cons message rest =>
          rw [receive_of_queue hq]
          exact .message h.eq_self id fun more => outstanding_of_queue hq _
      | nil =>
          rcases fed : r.feed text with ⟨fault, r'⟩
          cases fault with
          | some e =>
              rw [receive_of_fault hq h.connected h.receive_cons fed]
              refine .fault rfl fun more => ?_
              rw [List.flatten_cons, List.append_assoc, ← outstanding_feed, fed]
              exact outstanding_of_bad (parse_buffer_of_feed fed) _
          | none =>
              rw [receive_of_feed hq h.connected h.receive_cons fed]
              exact .of_feed fed (ih h.tail)

end RLanguageHost.Frame.Receiver
