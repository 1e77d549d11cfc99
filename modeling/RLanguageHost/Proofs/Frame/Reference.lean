import RLanguageHost.Proofs.Frame.Splitting

/-!
# What a text of frames says

`Parses` says what a text of frames says, without reference to how it is read: the header goes to
the first empty line and announces a length, and the body is what takes so many bytes. A text goes
on with the next frame until it is no whole frame, or none at all. Every text says exactly one
thing, and that is what a receiver takes off it (`parses_iff`).
-/

namespace RLanguageHost.Frame

/-- A text has its first empty line between two of its parts. -/
structure FirstBoundary (text header body : List Char) : Prop where
  eq : text = header ++ boundary ++ body
  first : ∀ other after, text = other ++ boundary ++ after → header.length ≤ other.length

/-- What a text of frames says: the bodies, the text that is left, and what is wrong with that. -/
inductive Parses : List Char → List (List Char) → List Char → Option Error → Prop where
  | noBoundary {text : List Char} (uncut : ∀ header body, text ≠ header ++ boundary ++ body) :
      Parses text [] text none
  | badHeader {text header body : List Char} {e : Error} (cut : FirstBoundary text header body)
      (bad : contentLength header = .error e) : Parses text [] text (some e)
  | shortBody {text header body : List Char} {n : Nat} (cut : FirstBoundary text header body)
      (length : contentLength header = .ok n) (short : byteLength body < n) :
      Parses text [] text none
  | splitBody {text header body : List Char} {n : Nat} (cut : FirstBoundary text header body)
      (length : contentLength header = .ok n) (enough : n ≤ byteLength body)
      (within : ∀ front rest, body = front ++ rest → byteLength front ≠ n) :
      Parses text [] text (some .splitCharacter)
  | message {text header body rest left : List Char} {bodies : List (List Char)}
      {fault : Option Error} (cut : FirstBoundary text header (body ++ rest))
      (length : contentLength header = .ok (byteLength body))
      (later : Parses rest bodies left fault) : Parses text (body :: bodies) left fault

/-! ## The first empty line -/

theorem FirstBoundary.eq_eq {text header header' body body' : List Char}
    (h : FirstBoundary text header body) (h' : FirstBoundary text header' body') :
    header = header' ∧ body = body' := by
  have length : header.length = header'.length :=
    Nat.le_antisymm (h.first _ _ h'.eq) (h'.first _ _ h.eq)
  have same := h.eq.symm.trans h'.eq
  rw [List.append_assoc, List.append_assoc] at same
  obtain ⟨headers, bodies⟩ := List.append_inj same length
  exact ⟨headers, List.append_cancel_left bodies⟩

theorem firstBoundary_of_go {read text front body : List Char}
    (h : splitHeader.go read text = some (front, body)) :
    ∃ header, front = read.reverse ++ header ∧ FirstBoundary text header body := by
  fun_induction splitHeader.go read text with
  | case1 => cases h
  | case2 read rest =>
      cases h
      exact ⟨[], by simp, rfl, fun _ _ _ => Nat.zero_le _⟩
  | case3 read c tail elsewhere ih =>
      obtain ⟨header, rfl, cut⟩ := ih h
      refine ⟨c :: header, by simp, by rw [cut.eq]; rfl, fun other after same => ?_⟩
      cases other with
      | nil =>
          obtain ⟨rfl, rfl⟩ := List.cons.inj same
          exact (elsewhere after rfl rfl).elim
      | cons d other => exact Nat.succ_le_succ (cut.first other after (List.cons.inj same).2)

theorem ne_append_of_go {read text : List Char} (h : splitHeader.go read text = none)
    (header body : List Char) : text ≠ header ++ boundary ++ body := by
  fun_induction splitHeader.go read text generalizing header with
  | case1 => simp [boundary]
  | case2 => cases h
  | case3 read c tail elsewhere ih =>
      rintro same
      cases header with
      | nil =>
          obtain ⟨rfl, rfl⟩ := List.cons.inj same
          exact elsewhere body rfl rfl
      | cons d header => exact ih h header (List.cons.inj same).2

theorem firstBoundary_of_splitHeader {text header body : List Char}
    (h : splitHeader text = some (header, body)) : FirstBoundary text header body := by
  obtain ⟨_, rfl, cut⟩ := firstBoundary_of_go h
  exact cut

theorem FirstBoundary.splitHeader_eq {text header body : List Char}
    (h : FirstBoundary text header body) : splitHeader text = some (header, body) := by
  cases found : splitHeader text with
  | none => exact absurd h.eq (ne_append_of_go found header body)
  | some parts =>
      obtain ⟨rfl, rfl⟩ := (firstBoundary_of_splitHeader found).eq_eq h
      rfl

/-! ## Bodies -/

theorem byteLength_append (front rest : List Char) :
    byteLength (front ++ rest) = byteLength front + byteLength rest := by
  induction front with
  | nil => simp
  | cons c front ih => rw [List.cons_append, byteLength_cons, byteLength_cons, ih, Nat.add_assoc]

theorem eq_append_of_takeBytes {n : Nat} {text body rest : List Char}
    (h : takeBytes n text = .all body rest) : text = body ++ rest ∧ byteLength body = n := by
  have general : ∀ taken, takeBytes.go taken n text = .all body rest →
      ∃ front, body = taken.reverse ++ front ∧ text = front ++ rest ∧ byteLength front = n := by
    clear h
    intro taken h
    fun_induction takeBytes.go taken n text with
    | case1 taken =>
        cases h
        exact ⟨[], by simp, rfl, rfl⟩
    | case2 => cases h
    | case3 taken c tail =>
        cases h
        exact ⟨[], by simp, rfl, rfl⟩
    | case4 => cases h
    | case5 taken n c tail some wide ih =>
        obtain ⟨front, rfl, rfl, length⟩ := ih h
        exact ⟨c :: front, by simp, rfl, by rw [byteLength_cons]; omega⟩
  obtain ⟨front, rfl, split, length⟩ := general [] h
  exact ⟨split, length⟩

theorem byteLength_lt_of_takeBytes {n : Nat} {text : List Char} (h : takeBytes n text = .short) :
    byteLength text < n := by
  unfold takeBytes at h
  generalize ([] : List Char) = taken at h
  fun_induction takeBytes.go taken n text with
  | case1 => cases h
  | case2 taken n some => exact Nat.pos_of_ne_zero some
  | case3 => cases h
  | case4 => cases h
  | case5 taken n c tail some wide ih =>
      have := ih h
      rw [byteLength_cons]
      omega

theorem le_byteLength_of_takeBytes {n : Nat} {text : List Char} (h : takeBytes n text = .split) :
    n ≤ byteLength text := by
  unfold takeBytes at h
  generalize ([] : List Char) = taken at h
  fun_induction takeBytes.go taken n text with
  | case1 => cases h
  | case2 => cases h
  | case3 => cases h
  | case4 taken n c tail some wide =>
      rw [byteLength_cons]
      omega
  | case5 taken n c tail some wide ih =>
      have := ih h
      rw [byteLength_cons]
      omega

/-- Which of the three it is depends on the beginnings of the text. -/
theorem takeBytes_eq_short {n : Nat} {text : List Char} (short : byteLength text < n) :
    takeBytes n text = .short := by
  cases taken : takeBytes n text with
  | short => rfl
  | all body rest =>
      obtain ⟨rfl, rfl⟩ := eq_append_of_takeBytes taken
      rw [byteLength_append] at short
      omega
  | split => exact absurd (le_byteLength_of_takeBytes taken) (Nat.not_le.mpr short)

theorem takeBytes_eq_split {n : Nat} {text : List Char} (enough : n ≤ byteLength text)
    (within : ∀ front rest, text = front ++ rest → byteLength front ≠ n) :
    takeBytes n text = .split := by
  cases taken : takeBytes n text with
  | split => rfl
  | all body rest =>
      obtain ⟨split, length⟩ := eq_append_of_takeBytes taken
      exact absurd length (within body rest split)
  | short => exact absurd enough (Nat.not_le.mpr (byteLength_lt_of_takeBytes taken))

/-! ## Texts -/

theorem parses_split (text : List Char) :
    Parses text (Receiver.split text).1 (Receiver.split text).2.1 (Receiver.split text).2.2 := by
  fun_induction Receiver.split text with
  | case1 text incomplete =>
      unfold parse at incomplete
      split at incomplete
      · next none => exact .noBoundary (ne_append_of_go none)
      · next cut =>
        split at incomplete
        · cases incomplete
        · next n length =>
          split at incomplete
          · cases incomplete
          · next short =>
            exact .shortBody (firstBoundary_of_splitHeader cut) length
              (byteLength_lt_of_takeBytes short)
          · cases incomplete
  | case2 text e bad =>
      unfold parse at bad
      split at bad
      · cases bad
      · next cut =>
        split at bad
        · next wrong =>
          cases bad
          exact .badHeader (firstBoundary_of_splitHeader cut) wrong
        · next n length =>
          split at bad
          · cases bad
          · cases bad
          · next within =>
            cases bad
            refine .splitBody (firstBoundary_of_splitHeader cut) length
              (le_byteLength_of_takeBytes within) ?_
            rintro front rest rfl rfl
            cases within.symm.trans (takeBytes_byteLength front rest)
  | case3 text body rest whole bodies left fault later ih =>
      rw [later] at ih
      unfold parse at whole
      split at whole
      · cases whole
      · next cut =>
        split at whole
        · cases whole
        · next n length =>
          split at whole
          · next taken =>
            cases whole
            obtain ⟨rfl, rfl⟩ := eq_append_of_takeBytes taken
            exact .message (firstBoundary_of_splitHeader cut) length ih
          · cases whole
          · cases whole

theorem Parses.split_eq {text left : List Char} {bodies : List (List Char)} {fault : Option Error}
    (h : Parses text bodies left fault) : Receiver.split text = (bodies, left, fault) := by
  induction h with
  | @noBoundary text uncut =>
      refine Receiver.split_of_incomplete ?_
      cases cut : splitHeader text with
      | none => rw [parse, cut]
      | some parts =>
          exact absurd (firstBoundary_of_splitHeader cut).eq (uncut parts.1 parts.2)
  | badHeader cut bad =>
      refine Receiver.split_of_bad ?_
      simp only [parse, cut.splitHeader_eq, bad]
  | shortBody cut length short =>
      refine Receiver.split_of_incomplete ?_
      simp only [parse, cut.splitHeader_eq, length, takeBytes_eq_short short]
  | splitBody cut length enough within =>
      refine Receiver.split_of_bad ?_
      simp only [parse, cut.splitHeader_eq, length, takeBytes_eq_split enough within]
  | message cut length later ih =>
      have whole := cut.splitHeader_eq
      rw [Receiver.split_of_message, ih]
      simp only [parse, whole, length, takeBytes_byteLength]

theorem contentLength_ne_channel (header : List Char) (e : Channel.Error) :
    contentLength header ≠ .error (.channel e) := by
  unfold contentLength
  split
  · exact fun same => Error.noConfusion (Except.error.inj same)
  · unfold lengthOf
    split
    · exact fun same => Error.noConfusion (Except.error.inj same)
    · split
      · exact fun same => Error.noConfusion (Except.error.inj same)
      · exact fun same => by cases same

/-- What is wrong with a text is never that the channel has failed. -/
theorem Parses.fault_ne_channel {text left : List Char} {bodies : List (List Char)}
    {fault : Option Error} (h : Parses text bodies left fault) (e : Channel.Error) :
    fault ≠ some (.channel e) := by
  induction h with
  | noBoundary | shortBody => exact Option.some_ne_none _ ∘ Eq.symm
  | badHeader _ bad =>
      rintro ⟨⟩
      exact contentLength_ne_channel _ e bad
  | splitBody => exact fun same => Error.noConfusion (Option.some.inj same)
  | message _ _ _ ih => exact ih

/-- What a receiver takes off a text is what the text says, and nothing else is. -/
theorem parses_iff {text left : List Char} {bodies : List (List Char)} {fault : Option Error} :
    Parses text bodies left fault ↔ Receiver.split text = (bodies, left, fault) := by
  constructor
  · exact Parses.split_eq
  · intro h
    have said := parses_split text
    rwa [h] at said

end RLanguageHost.Frame
