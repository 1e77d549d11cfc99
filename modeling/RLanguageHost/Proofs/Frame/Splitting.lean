import RLanguageHost.Frame.Receiver
import RLanguageHost.Proofs.Frame.Header

/-!
# Taking frames off a text

What `parse` decides about the beginning of a text stays decided when more text follows: a message
is the same message, an error the same error. Frames can therefore be taken off as the text arrives
(`split_append`), and how it was cut does not matter.

The frames that `frame` writes are taken off one by one, whatever their bodies hold.
-/

namespace RLanguageHost.Frame

@[simp] theorem byteLength_nil : byteLength [] = 0 := rfl

theorem byteLength_cons (c : Char) (text : List Char) :
    byteLength (c :: text) = c.utf8Size + byteLength text := by
  have shift : ∀ (text : List Char) (n : Nat),
      text.foldl (fun n c => n + c.utf8Size) n = n + byteLength text := by
    intro text
    induction text with
    | nil => intro n; rfl
    | cons d rest ih =>
        intro n
        rw [byteLength, List.foldl_cons, List.foldl_cons, ih, ih]
        omega
  rw [byteLength, List.foldl_cons, shift]
  omega

/-! ## Headers -/

theorem splitHeader_go_append {front : List Char} (h : '\r' ∉ front) (read rest : List Char) :
    splitHeader.go read (front ++ boundary ++ rest) = some (read.reverse ++ front, rest) := by
  induction front generalizing read with
  | nil => simp [boundary, splitHeader.go]
  | cons c front ih =>
      simp only [List.mem_cons, not_or] at h
      rw [List.cons_append, List.cons_append, splitHeader.go, ih h.2]
      · simp
      · rintro body rfl
        exact absurd rfl h.1

theorem splitHeader_append {front : List Char} (h : '\r' ∉ front) (rest : List Char) :
    splitHeader (front ++ boundary ++ rest) = some (front, rest) :=
  splitHeader_go_append h [] rest

theorem length_of_splitHeader_go {read text front rest : List Char}
    (h : splitHeader.go read text = some (front, rest)) : 4 ≤ text.length := by
  fun_induction splitHeader.go read text with
  | case1 => cases h
  | case2 => simp
  | case3 read c tail _ ih => exact Nat.le_succ_of_le (ih h)

/-- The first empty line stays the first one when more text follows. -/
theorem splitHeader_go_append_of_some {read text front rest : List Char}
    (h : splitHeader.go read text = some (front, rest)) (more : List Char) :
    splitHeader.go read (text ++ more) = some (front, rest ++ more) := by
  fun_induction splitHeader.go read text with
  | case1 => cases h
  | case2 read body =>
      cases h
      simp [splitHeader.go]
  | case3 read c tail other ih =>
      have long := length_of_splitHeader_go h
      rw [List.cons_append, splitHeader.go, ih h]
      intro body hc htail
      obtain ⟨a, b, d, tail, rfl⟩ : ∃ a b d tail', tail = a :: b :: d :: tail' := by
        match tail, long with
        | a :: b :: d :: tail', _ => exact ⟨a, b, d, tail', rfl⟩
      simp only [List.cons_append, List.cons.injEq] at htail
      obtain ⟨rfl, rfl, rfl, -⟩ := htail
      exact other tail hc rfl

theorem splitHeader_append_of_some {text front rest : List Char}
    (h : splitHeader text = some (front, rest)) (more : List Char) :
    splitHeader (text ++ more) = some (front, rest ++ more) :=
  splitHeader_go_append_of_some h more

/-! ## Bodies -/

theorem takeBytes_go_byteLength (taken body rest : List Char) :
    takeBytes.go taken (byteLength body) (body ++ rest) = .all (taken.reverse ++ body) rest := by
  induction body generalizing taken with
  | nil => cases rest <;> simp [takeBytes.go]
  | cons c body ih =>
      have wide := c.utf8Size_pos
      rw [List.cons_append, takeBytes.go, if_neg (by rw [byteLength_cons]; omega),
        if_neg (by rw [byteLength_cons]; omega), byteLength_cons, Nat.add_sub_cancel_left, ih]
      simp

theorem takeBytes_byteLength (body rest : List Char) :
    takeBytes (byteLength body) (body ++ rest) = .all body rest :=
  takeBytes_go_byteLength [] body rest

theorem takeBytes_append_of_all {n : Nat} {text body rest : List Char}
    (h : takeBytes n text = .all body rest) (more : List Char) :
    takeBytes n (text ++ more) = .all body (rest ++ more) := by
  unfold takeBytes at h ⊢
  generalize ([] : List Char) = taken at h ⊢
  fun_induction takeBytes.go taken n text with
  | case1 taken =>
      cases h
      cases more <;> simp [takeBytes.go]
  | case2 => cases h
  | case3 taken c rest =>
      cases h
      simp [takeBytes.go]
  | case4 => cases h
  | case5 taken n c tail some wide ih =>
      rw [List.cons_append, takeBytes.go, if_neg some, if_neg wide, ih h]

theorem takeBytes_append_of_split {n : Nat} {text : List Char}
    (h : takeBytes n text = .split) (more : List Char) : takeBytes n (text ++ more) = .split := by
  unfold takeBytes at h ⊢
  generalize ([] : List Char) = taken at h ⊢
  fun_induction takeBytes.go taken n text with
  | case1 => cases h
  | case2 => cases h
  | case3 => cases h
  | case4 taken n c tail some wide => rw [List.cons_append, takeBytes.go, if_neg some, if_pos wide]
  | case5 taken n c tail some wide ih =>
      rw [List.cons_append, takeBytes.go, if_neg some, if_neg wide, ih h]

/-! ## Frames -/

/-- The frame of a body is read back, whatever follows it. -/
theorem parse_frame_append {body : List Char} (h : byteLength body ≤ maxLength)
    (rest : List Char) : parse (frame body ++ rest) = .message body rest := by
  have plain : '\r' ∉ header (byteLength body) := not_mem_header (by decide) (by decide) _
  have cut : splitHeader (frame body ++ rest) = some (header (byteLength body), body ++ rest) := by
    rw [frame, List.append_assoc]
    exact splitHeader_append plain (body ++ rest)
  simp only [parse, cut, contentLength_header h, takeBytes_byteLength]

theorem parse_append_of_message {text body rest : List Char} (h : parse text = .message body rest)
    (more : List Char) : parse (text ++ more) = .message body (rest ++ more) := by
  unfold parse at h
  split at h
  · cases h
  · next front tail cut =>
    split at h
    · cases h
    · next n length =>
      split at h
      · next taken =>
        cases h
        simp only [parse, splitHeader_append_of_some cut, length, takeBytes_append_of_all taken]
      · cases h
      · cases h

theorem parse_append_of_bad {text : List Char} {e : Error} (h : parse text = .bad e)
    (more : List Char) : parse (text ++ more) = .bad e := by
  unfold parse at h
  split at h
  · cases h
  · next front tail cut =>
    split at h
    · next length =>
      cases h
      simp only [parse, splitHeader_append_of_some cut, length]
    · next n length =>
      split at h
      · cases h
      · cases h
      · next taken =>
        cases h
        simp only [parse, splitHeader_append_of_some cut, length, takeBytes_append_of_split taken]

namespace Receiver

theorem split_of_message {text body rest : List Char} (h : parse text = .message body rest) :
    split text = (body :: (split rest).1, (split rest).2) := by
  rw [split]
  split <;> simp_all

theorem split_of_incomplete {text : List Char} (h : parse text = .incomplete) :
    split text = ([], text, none) := by
  rw [split]
  split <;> simp_all

theorem split_of_bad {text : List Char} {e : Error} (h : parse text = .bad e) :
    split text = ([], text, some e) := by
  rw [split]
  split <;> simp_all

/-- What the text that is left says by itself. -/
theorem parse_left (text : List Char) :
    parse (split text).2.1 = (split text).2.2.elim .incomplete .bad := by
  fun_induction split text with
  | case1 text h => exact h
  | case2 text e h => exact h
  | case3 text body rest h bodies left fault hs ih => rwa [hs] at ih

/-- Frames may be taken off as the text arrives: those that are there can be taken off first, and
the text that is left is looked at again with what follows it. -/
theorem split_append (text more : List Char) :
    split (text ++ more) =
      ((split text).1 ++ (split ((split text).2.1 ++ more)).1,
        (split ((split text).2.1 ++ more)).2) := by
  fun_induction split text with
  | case1 text h => simp
  | case2 text e h => simp
  | case3 text body rest h bodies left fault hs ih =>
      rw [split_of_message (parse_append_of_message h more), ih, hs]
      rfl

theorem split_frames {bodies : List (List Char)}
    (small : ∀ body ∈ bodies, byteLength body ≤ maxLength) :
    split (bodies.flatMap frame) = (bodies, [], none) := by
  induction bodies with
  | nil => exact split_of_incomplete rfl
  | cons body bodies ih =>
      have first := parse_frame_append (small body List.mem_cons_self) (bodies.flatMap frame)
      rw [List.flatMap_cons, split_of_message first,
        ih fun body member => small body (List.mem_cons_of_mem _ member)]

end Receiver

end RLanguageHost.Frame
