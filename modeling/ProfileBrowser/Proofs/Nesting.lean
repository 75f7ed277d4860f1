import ProfileBrowser.Proofs.ReadBack
/-!
# Nested too deep

Where the nesting is limited, the text of a value that is nested that deep is no document
(`read_compact_of_deep`). What comes before the bracket or brace that is one too many is read as it would
be without a limit: so what follows an item or the value of a member is only reached if there was room
for it (`ReadInRoom.of_feed`), and the end of an array or object only if there was room for all of them
(`room_of_items`, `room_of_members`).
-/

namespace ProfileBrowser.Json

open Text

variable {limit : Option Nat} {s t u : State} {v : Json}

/-- An array or object fits in where its first part and the others do. -/
theorem Room.join {depth first others : Nat} (hfirst : Room limit (depth + 1) first)
    (hothers : Room limit depth (others + 1)) : Room limit depth (max first others + 1) :=
  fun bound hbound => by
    have hroom := hfirst bound hbound
    have hmore := hothers bound hbound
    omega

/-- What stands behind an opening bracket or brace is reached where there was room for one level more. -/
theorem State.room_of_enter (hroom : Room limit s.depth 0) {b : UInt8} {mode : Mode} {frame : Frame}
    {place : Position} (hstep : s.step limit b = s.enter limit mode frame place) {bytes : List UInt8}
    (hfeed : s.feed limit (b :: bytes) = .ok u) :
    Room limit s.depth 1 ∧ (s.inside mode frame place).feed limit bytes = .ok u := by
  rw [feed, hstep, enter] at hfeed
  split_ifs at hfeed with hfull
  refine ⟨fun bound hbound => ?_, hfeed⟩
  have hopen : bound ≠ s.depth + 1 := fun h => hfull (hbound.trans (congrArg some h))
  have hlt := hroom bound hbound
  omega

/-- The text of a value is read where there is room for it, and nowhere else. -/
structure ReadInRoom (limit : Option Nat) (v : Json) : Prop where
  readBack : ReadBack limit v
  room : ∀ s : State, s.Awaits → Room limit s.depth 0 →
    ∀ t, s.feed limit (utf8 (compact v)) = .ok t → Room limit s.depth (nesting v)

/-- What follows a value is reached where there was room for it, from where it has been read. -/
theorem ReadInRoom.of_feed (h : ReadInRoom limit v) (hs : s.Awaits) (hroom : Room limit s.depth 0)
    {rest : List UInt8} (hfeed : s.feed limit (utf8 (compact v) ++ rest) = .ok u) :
    Room limit s.depth (nesting v) ∧ ∃ t, Reads s (sorted v) t ∧ t.feed limit rest = .ok u := by
  obtain ⟨t, hfront, hrest⟩ := State.exists_feed_of_append hfeed
  have hv := h.room s hs hroom t hfront
  obtain ⟨t', hread, ht⟩ := h.readBack s hs hv
  cases hread.symm.trans hfront
  exact ⟨hv, t, ht, hrest⟩

/-! ### Arrays -/

/-- The items behind the first one are read where there is room for all of them. -/
theorem room_of_items {rest : List Json} (hrest : ∀ v ∈ rest, ReadInRoom limit v)
    (hroom : Room limit s.depth 1) {mode : Mode} {done : List Json} {place : Position}
    (h : Reads (s.inside mode (.list done) place) v t)
    (hfeed : t.feed limit (utf8 (compactItems rest)) = .ok u) :
    Room limit s.depth (nestingItems rest + 1) := by
  induction rest generalizing t v mode done place with
  | nil => exact hroom
  | cons w rest ih =>
    obtain ⟨place, hstep⟩ := h.step rfl (b := 44) (.inl rfl)
    have hcomma : t.step limit 44 = .ok (s.inside .nextItem (.list (v :: done)) (place.after 44)) := hstep
    rw [compactItems, List.cons_append, utf8_cons, utf8_append] at hfeed
    obtain ⟨hw, t, ht, hmore⟩ := (hrest w List.mem_cons_self).of_feed (.inr (.inr rfl))
      (hroom.inner le_rfl) ((State.feed_cons hcomma _).symm.trans hfeed)
    exact Room.join hw (ih (fun x hx => hrest x (List.mem_cons_of_mem _ hx)) ht hmore)

theorem readInRoom_arr {items : List Json} (h : ∀ v ∈ items, ReadInRoom limit v) :
    ReadInRoom limit (.arr items) := by
  refine ⟨readBack_arr fun v hv => (h v hv).readBack, fun s hs hroom t hfeed => ?_⟩
  have hstep : s.step limit 91 = s.enter limit .firstItem (.list []) (s.place.after 91) :=
    hs.step rfl (by decide)
  cases items with
  | nil => exact (State.room_of_enter hroom hstep hfeed).1
  | cons v rest =>
    rw [compact, List.cons_append, utf8_cons, utf8_append] at hfeed
    obtain ⟨hopen, hinside⟩ := State.room_of_enter hroom hstep hfeed
    obtain ⟨hv, u, hu, hmore⟩ := (h v List.mem_cons_self).of_feed (.inr (.inl rfl))
      (hopen.inner le_rfl) hinside
    exact hv.join (room_of_items (fun x hx => h x (List.mem_cons_of_mem _ hx)) hopen hu hmore)

/-! ### Objects -/

/-- What follows a member is reached where there was room for its value. -/
theorem ReadInRoom.of_feed_member (h : ReadInRoom limit v) {key : String} {mode : Mode}
    (hmode : mode = .firstKey ∨ mode = .nextKey) (hroom : Room limit s.depth 1) {done : Members}
    {place : Position} {rest : List UInt8}
    (hfeed : (s.inside mode (.object done) place).feed limit
      (utf8 (stringText key ++ ':' :: compact v) ++ rest) = .ok u) :
    Room limit (s.depth + 1) (nesting v) ∧
      ∃ t next, Reads (s.inside .value (.member done key) next) (sorted v) t ∧
        t.feed limit rest = .ok u := by
  obtain ⟨next, hkey⟩ := @key_read limit key mode hmode s done place
  rw [List.append_cons, utf8_append, List.append_assoc, State.feed_append hkey] at hfeed
  obtain ⟨hv, t, ht, hmore⟩ := h.of_feed (.inl rfl) (hroom.inner le_rfl) hfeed
  exact ⟨hv, t, next, ht, hmore⟩

/-- The members behind the first one are read where there is room for all of them. -/
theorem room_of_members {rest : List (String × Json)} (hrest : ∀ m ∈ rest, ReadInRoom limit m.2)
    (hroom : Room limit s.depth 1) {mode : Mode} {done : Members} {key : String} {place : Position}
    (h : Reads (s.inside mode (.member done key) place) v t)
    (hfeed : t.feed limit (utf8 (compactMembers rest)) = .ok u) :
    Room limit s.depth (nestingMembers rest + 1) := by
  induction rest generalizing t v mode done key place with
  | nil => exact hroom
  | cons m rest ih =>
    obtain ⟨place, hstep⟩ := h.step rfl (b := 44) (.inl rfl)
    have hcomma : t.step limit 44 =
        .ok (s.inside .nextKey (.object (Members.insert key v done)) (place.after 44)) := hstep
    rw [compactMembers_cons, utf8_cons, utf8_append] at hfeed
    obtain ⟨hm, t, next, ht, hmore⟩ := (hrest m List.mem_cons_self).of_feed_member (.inr rfl) hroom
      ((State.feed_cons hcomma _).symm.trans hfeed)
    exact hm.join (ih (fun x hx => hrest x (List.mem_cons_of_mem _ hx)) ht hmore)

theorem readInRoom_obj {ms : List (String × Json)} (h : ∀ m ∈ ms, ReadInRoom limit m.2) :
    ReadInRoom limit (.obj ms) := by
  refine ⟨readBack_obj fun m hm => (h m hm).readBack, fun s hs hroom t hfeed => ?_⟩
  have hstep : s.step limit 123 = s.enter limit .firstKey (.object []) (s.place.after 123) :=
    hs.step rfl (by decide)
  cases ms with
  | nil => exact (State.room_of_enter hroom hstep hfeed).1
  | cons m rest =>
    rw [compact_obj_cons, utf8_cons, utf8_append] at hfeed
    obtain ⟨hopen, hinside⟩ := State.room_of_enter hroom hstep hfeed
    obtain ⟨hm, u, next, hu, hmore⟩ := (h m List.mem_cons_self).of_feed_member (.inl rfl) hopen hinside
    exact hm.join (room_of_members (fun x hx => h x (List.mem_cons_of_mem _ hx)) hopen hu hmore)

/-! ### Documents -/

/-- **Wherever a value is expected, the text of an exact one is read as it or finds no room.** -/
theorem Exact.readInRoom {v : Json} (h : Exact v) : ReadInRoom limit v := by
  have hscalar : ∀ {v : Json}, Exact v → nesting v = 0 → ReadInRoom limit v := fun h hflat =>
    ⟨h.readBack, fun _ _ hroom _ _ => hflat.symm ▸ hroom⟩
  induction h with
  | null => exact hscalar .null rfl
  | bool b => exact hscalar (.bool b) rfl
  | int hfits => exact hscalar (.int hfits) rfl
  | str text => exact hscalar (.str text) rfl
  | arr hitems ih => exact readInRoom_arr ih
  | obj hvalues ih => exact readInRoom_obj ih

/-- The text of a value that is nested as deep as is allowed is no document. -/
theorem read_compact_of_deep {v w : Json} (h : Exact v) {bound : Nat} (hpos : 0 < bound)
    (hdeep : bound ≤ nesting v) : read (some bound) (utf8 (compact v)) ≠ .ok w := by
  intro hread
  rw [read] at hread
  split at hread
  next t hfeed =>
    have hroom : Room (some bound) 0 0 := fun _ hbound => Option.some.inj hbound ▸ hpos
    have hv : Room (some bound) 0 (nesting v) :=
      h.readInRoom.room (.initial 0 .start) (.inl rfl) hroom t hfeed
    have hlt := hv bound rfl
    omega
  next => cases hread

end ProfileBrowser.Json
