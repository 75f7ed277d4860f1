import ProfileBrowser.Proofs.ReadInOrder
import ProfileBrowser.Proofs.Tokens
import ProfileBrowser.Query.Response
/-!
# A response is one whole document

What is read as a response is a whole document and no more: blanks may follow it, any other byte behind it is
an error, and without one of its bytes that is no blank it is no document (`Response.ofBytes_whole`).

Where a value ends shows in the machine's mode, except for a number, which shows its end only in the byte
behind it. A number that is the whole document leaves the machine where nothing but a number can come of
it (`State.Bare`), and a response is an object. So the machine that has read a response is in the mode of a
complete document (`State.mode_of_finish`), in which it takes blanks alone; and a part of a document that
was complete already would have had nothing but blanks behind it.
-/

namespace ProfileBrowser

namespace Json

variable {limit : Option Nat} {s t : State} {v : Json} {b : UInt8} {bytes : List UInt8}

namespace State

/-! ### Behind a complete document -/

theorem step_done (h : s.mode = .done v) (hb : isSpace b = true) :
    s.step limit b = .ok { s with place := s.place.after b } := by
  simp only [step, h, hb, ↓reduceIte]

theorem step_done_of_not_space (h : s.mode = .done v) (hb : isSpace b = false) :
    s.step limit b = .error ⟨.trailingCharacters, s.place.after b⟩ := by
  simp only [step, h, hb, Bool.false_eq_true, ↓reduceIte]

/-- **Blanks leave a complete document as it is.** -/
theorem feed_done (h : s.mode = .done v) (hbytes : ∀ b ∈ bytes, isSpace b = true) :
    ∃ t, s.feed limit bytes = .ok t ∧ t.mode = .done v := by
  induction bytes generalizing s with
  | nil => exact ⟨s, rfl, h⟩
  | cons b bytes ih =>
    obtain ⟨hb, hmore⟩ := List.forall_mem_cons.mp hbytes
    obtain ⟨t, hfeed, ht⟩ := ih (s := { s with place := s.place.after b }) h hmore
    exact ⟨t, (feed_cons (step_done h hb) bytes).trans hfeed, ht⟩

/-- **Nothing but blanks can follow it.** -/
theorem isSpace_of_feed_done (h : s.mode = .done v) (hfeed : s.feed limit bytes = .ok t) :
    ∀ b ∈ bytes, isSpace b = true := by
  induction bytes generalizing s with
  | nil => exact List.forall_mem_nil _
  | cons b bytes ih =>
    cases hb : isSpace b with
    | true =>
      rw [feed_cons (step_done h hb)] at hfeed
      exact List.forall_mem_cons.mpr ⟨hb, ih (s := { s with place := s.place.after b }) h hfeed⟩
    | false =>
      rw [feed, step_done_of_not_space h hb] at hfeed
      cases hfeed

/-! ### Documents that are numbers -/

/-- The document is a number, one that may go on or one that is complete. -/
structure Bare (s : State) : Prop where
  stack : s.stack = []
  mode : (∃ negative n, s.mode = .number negative n) ∨ ∃ v, s.mode = .done v ∧ v.IsNumber

/-- **A document that has begun as a number stays one.** -/
theorem Bare.step (hs : s.Bare) (h : s.step limit b = .ok t) : t.Bare := by
  obtain ⟨mode, stack, depth, place⟩ := s
  obtain ⟨hstack, hmode⟩ := hs
  obtain rfl : stack = [] := hstack
  rcases hmode with ⟨negative, n, hmode⟩ | ⟨v, hmode, hv⟩
  · obtain rfl : mode = .number negative n := hmode
    simp only [State.step] at h
    split at h
    next m hstep =>
      cases h
      exact ⟨rfl, .inl ⟨negative, m, rfl⟩⟩
    next => cases h
    next =>
      split at h
      next => cases h
      next v hvalue =>
        -- The number ends here, so the document does, and only a blank may be the reason.
        simp only [deliver, goOn, afterValue] at h
        split_ifs at h
        cases h
        exact ⟨rfl, .inr ⟨v, rfl, isNumber_value hvalue⟩⟩
  · obtain rfl : mode = .done v := hmode
    simp only [State.step] at h
    split_ifs at h
    cases h
    exact ⟨rfl, .inr ⟨v, rfl, hv⟩⟩

theorem Bare.feed (hs : s.Bare) (h : s.feed limit bytes = .ok t) : t.Bare := by
  induction bytes generalizing s with
  | nil =>
    cases h
    exact hs
  | cons b bytes ih =>
    rw [State.feed] at h
    split at h
    next u hstep => exact ih (hs.step hstep) h
    next => cases h

theorem Bare.isNumber (hs : s.Bare) (h : s.finish = .ok v) : v.IsNumber := by
  rcases hs.mode with ⟨negative, n, hmode⟩ | ⟨w, hmode, hw⟩
  · simp only [finish, hmode, deliver, hs.stack] at h
    split at h
    next => cases h
    next w hvalue =>
      cases h
      exact isNumber_value hvalue
  · simp only [finish, hmode] at h
    cases h
    exact hw

/-- **A document can end where it is complete, or where it is a number.** -/
theorem mode_of_finish (h : s.finish = .ok v) : s.mode = .done v ∨ s.Bare := by
  obtain ⟨mode, stack, depth, place⟩ := s
  cases mode with
  | done w =>
    cases h
    exact .inl rfl
  | number negative n =>
    cases stack with
    | nil => exact .inr ⟨rfl, .inl ⟨negative, n, rfl⟩⟩
    | cons frame outer =>
      simp only [finish] at h
      split at h
      next => cases h
      next w hvalue => cases frame <;> cases h
  | _ => cases h

end State

/-! ### Whole documents -/

theorem exists_of_read (h : read limit bytes = .ok v) :
    ∃ t, (State.initial 0 .start).feed limit bytes = .ok t ∧ t.finish = .ok v := by
  rw [read] at h
  split at h
  next t hfeed => exact ⟨t, hfeed, h⟩
  next => cases h

/-- What is no number has been read completely. -/
theorem exists_done_of_read (h : read limit bytes = .ok v) (hv : ¬v.IsNumber) :
    ∃ t, (State.initial 0 .start).feed limit bytes = .ok t ∧ t.mode = .done v := by
  obtain ⟨t, hfeed, hfinish⟩ := exists_of_read h
  rcases State.mode_of_finish hfinish with hmode | hbare
  · exact ⟨t, hfeed, hmode⟩
  · exact absurd (hbare.isNumber hfinish) hv

/-- **Blanks may follow a document.** -/
theorem read_append_blanks (h : read limit bytes = .ok v) (hv : ¬v.IsNumber) {blanks : List UInt8}
    (hblanks : ∀ b ∈ blanks, isSpace b = true) : read limit (bytes ++ blanks) = .ok v := by
  obtain ⟨t, hfeed, hmode⟩ := exists_done_of_read h hv
  obtain ⟨u, hmore, hdone⟩ := State.feed_done hmode hblanks
  rw [read, State.feed_append hfeed, hmore]
  simp only [State.finish, hdone]

/-- **Anything else behind it is an error.** -/
theorem read_append_beyond (h : read limit bytes = .ok v) (hv : ¬v.IsNumber) (hb : isSpace b = false)
    (more : List UInt8) :
    ∃ place, read limit (bytes ++ b :: more) = .error ⟨.trailingCharacters, place⟩ := by
  obtain ⟨t, hfeed, hmode⟩ := exists_done_of_read h hv
  refine ⟨t.place.after b, ?_⟩
  rw [read, State.feed_append hfeed, State.feed, State.step_done_of_not_space hmode hb]

/-- **A part of a document is none** if more than blanks are missing. -/
theorem read_prefix {front cut : List UInt8} (h : read limit (front ++ cut) = .ok v) (hv : ¬v.IsNumber)
    (hcut : ∃ b ∈ cut, isSpace b = false) : ∃ e, read limit front = .error e := by
  obtain ⟨u, hwhole, hfinish⟩ := exists_of_read h
  obtain ⟨t, hfront, hrest⟩ := State.exists_feed_of_append hwhole
  cases hread : read limit front with
  | error e => exact ⟨e, rfl⟩
  | ok w =>
    rw [read, hfront] at hread
    rcases State.mode_of_finish hread with hmode | hbare
    · obtain ⟨b, hb, hspace⟩ := hcut
      rw [State.isSpace_of_feed_done hmode hrest b hb] at hspace
      cases hspace
    · exact absurd ((hbare.feed hrest).isNumber hfinish) hv

end Json

/-! ### Responses -/

namespace Response

open Json

theorem exists_of_ofBytes {bytes : List UInt8} {r : Response} (h : ofBytes bytes = .ok r) :
    ∃ v, read none bytes = .ok v ∧ ofJson v = .ok r ∧ ¬v.IsNumber := by
  rw [ofBytes] at h
  split at h
  next v hread =>
    refine ⟨v, hread, h, ?_⟩
    rintro (_ | _) <;> cases h
  next => cases h

/-- **A response is one whole document.** Blanks may follow it, and they change nothing. Any other byte
behind it, or behind such blanks, is reported as one that is too many. Without its last bytes, unless these
are blanks, it is no document at all. -/
theorem ofBytes_whole {bytes : List UInt8} {r : Response} (h : ofBytes bytes = .ok r) :
    (∀ blanks : List UInt8, (∀ b ∈ blanks, isSpace b = true) →
      ofBytes (bytes ++ blanks) = .ok r ∧
      ∀ (b : UInt8) (more : List UInt8), isSpace b = false → ∃ place : Position,
        ofBytes (bytes ++ blanks ++ b :: more) =
          .error (.parse (SyntaxFault.message ⟨.trailingCharacters, place⟩))) ∧
    ∀ front cut : List UInt8, front ++ cut = bytes → (∃ b ∈ cut, isSpace b = false) →
      ∃ message, ofBytes front = .error (.parse message) := by
  obtain ⟨v, hread, hjson, hv⟩ := exists_of_ofBytes h
  refine ⟨fun blanks hblanks => ?_, ?_⟩
  · have hmore := read_append_blanks hread hv hblanks
    have hsame : ofBytes (bytes ++ blanks) = .ok r := by
      rw [ofBytes, hmore]
      exact hjson
    refine ⟨hsame, fun b more hb => ?_⟩
    obtain ⟨place, herror⟩ := read_append_beyond hmore hv hb more
    exact ⟨place, by rw [ofBytes, herror]⟩
  · rintro front cut rfl hcut
    obtain ⟨e, herror⟩ := read_prefix hread hv hcut
    exact ⟨e.message, by rw [ofBytes, herror]⟩

/-- A document with a line feed behind it: with more blanks, with itself once more, and without its last
bracket. -/
theorem ofBytes_whole_twice :
    -- {"diagrams": {"unit":"ms"}}
    let document : List UInt8 := [123, 34, 100, 105, 97, 103, 114, 97, 109, 115, 34, 58, 32, 123, 34, 117,
      110, 105, 116, 34, 58, 34, 109, 115, 34, 125, 125]
    let bytes := document ++ [10]
    let r : Response := ⟨some { unit := "ms" }⟩
    (ofBytes bytes = .ok r ∧ (∀ b ∈ [9, 32], isSpace b = true) ∧ isSpace 123 = false ∧
      document.dropLast ++ [125, 10] = bytes ∧ ∃ b ∈ [125, 10], isSpace b = false) ∧
    ofBytes (bytes ++ [9, 32]) = .ok r ∧
    (∃ place : Position, ofBytes (bytes ++ [9, 32] ++ document) =
      .error (.parse (SyntaxFault.message ⟨.trailingCharacters, place⟩))) ∧
    ∃ message, ofBytes document.dropLast = .error (.parse message) := by
  intro document bytes r
  have hread : ofBytes bytes = .ok r := rfl
  have hblanks : ∀ b ∈ [9, 32], isSpace b = true :=
    List.forall_mem_cons.mpr ⟨rfl, List.forall_mem_singleton.mpr rfl⟩
  have hbracket : ∃ b ∈ [125, 10], isSpace b = false := ⟨125, List.mem_cons_self, rfl⟩
  obtain ⟨hlonger, hshorter⟩ := ofBytes_whole hread
  obtain ⟨hsame, hbeyond⟩ := hlonger [9, 32] hblanks
  exact ⟨⟨hread, hblanks, rfl, rfl, hbracket⟩, hsame, hbeyond 123 document.tail rfl,
    hshorter document.dropLast [125, 10] rfl hbracket⟩

end Response

end ProfileBrowser
