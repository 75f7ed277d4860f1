import ProfileBrowser.Proofs.Members
import ProfileBrowser.Proofs.Tokens
/-!
# Reading written values

A value without floats is read back from its compact text with the members of its objects in order: if
nothing limits the nesting, however deep it is nested (`read_compact`), and otherwise if it is nested less
deep than that (`read_compact_of_room`). The machine keeps the enclosing arrays and objects on its stack,
so what is to be shown of a value holds inside any of them, as long as there is room for it (`ReadBack`):
its text takes the machine from where a value is expected to where it has been delivered. An array or
object is read item by item and member by member, each as a value on its own (`items_read`,
`members_read`).

A float is left out: its text is read as the nearest float that a scaling by powers of ten gives.
-/

namespace ProfileBrowser.Json

open Text

/-- A value without floats, and with integers that a number holds. -/
inductive Exact : Json → Prop where
  | null : Exact .null
  | bool (b : Bool) : Exact (.bool b)
  | int {i : Int} (hfits : fits i) : Exact (.int i)
  | str (s : String) : Exact (.str s)
  | arr {items : List Json} (hitems : ∀ v ∈ items, Exact v) : Exact (.arr items)
  | obj {ms : Members} (hvalues : ∀ m ∈ ms, Exact m.2) : Exact (.obj ms)

theorem exact_word (n : UInt64) : Exact (.word n) := by
  refine .int ⟨?_, ?_⟩
  · exact le_trans (by decide) (Int.natCast_nonneg _)
  · exact Int.ofNat_lt.mpr n.toNat_lt

/-! ### Nesting -/

mutual
/-- How deep arrays and objects are nested in a value. -/
def nesting : Json → Nat
  | .arr items => nestingItems items + 1
  | .obj ms => nestingMembers ms + 1
  | _ => 0

/-- The greatest nesting of some items. -/
def nestingItems : List Json → Nat
  | [] => 0
  | v :: rest => max (nesting v) (nestingItems rest)

/-- The greatest nesting of the values of some members. -/
def nestingMembers : List (String × Json) → Nat
  | [] => 0
  | (_, v) :: rest => max (nesting v) (nestingMembers rest)
end

/-- At a depth there is room for a value of some nesting. -/
def Room (limit : Option Nat) (depth nesting : Nat) : Prop :=
  ∀ bound, limit = some bound → depth + nesting < bound

theorem Room.mono {limit : Option Nat} {depth inner outer : Nat} (h : Room limit depth outer)
    (hle : inner ≤ outer) : Room limit depth inner := fun bound hbound =>
  Nat.lt_of_le_of_lt (Nat.add_le_add_left hle depth) (h bound hbound)

theorem Room.inner {limit : Option Nat} {depth outer inner : Nat} (h : Room limit depth (outer + 1))
    (hle : inner ≤ outer) : Room limit (depth + 1) inner := fun bound hbound => by
  have hroom := h bound hbound
  omega

/-! ### Behind a value -/

variable {limit : Option Nat} {s t : State} {v : Json}

/-- The machine inside an array or object that has been opened in a state. -/
def State.inside (s : State) (mode : Mode) (frame : Frame) (place : Position) : State :=
  ⟨mode, frame :: s.stack, s.depth + 1, place⟩

/-- With its end it is delivered where it was opened. -/
theorem State.close_inside (s : State) (mode : Mode) (frame : Frame) (place : Position) (v : Json) :
    (s.inside mode frame place).close s.stack v = { s with place }.deliver v :=
  deliver_of_mode { s with place } mode v

/-- Where there is room it is opened. -/
theorem State.enter_of_room {n : Nat} (h : Room limit s.depth (n + 1)) (mode : Mode) (frame : Frame)
    (place : Position) : s.enter limit mode frame place = .ok (s.inside mode frame place) := by
  rw [enter, if_neg]
  · rfl
  · intro hlimit
    have hroom := h _ hlimit
    omega

theorem isSpace_of_closes {b : UInt8} (h : Closes b) : isSpace b = false := by
  rcases h with rfl | rfl | rfl <;> rfl

theorem State.deliver_mode {frame : Frame} {outer : List Frame} (h : s.stack = frame :: outer)
    (v : Json) : (s.deliver v).mode = .afterValue := by
  rw [deliver, h]
  cases frame <;> rfl

/-- What comes behind a value that has been read comes behind the delivered value. -/
theorem Reads.step {frame : Frame} {outer : List Frame} (h : Reads s v t)
    (hstack : s.stack = frame :: outer) {b : UInt8} (hb : Closes b) :
    ∃ place, t.step limit b = ({ s with place }.deliver v).afterValue b := by
  have hgoOn : ∀ u : State, u.goOn b = u.afterValue b := fun u => by
    simp only [State.goOn, isSpace_of_closes hb, Bool.false_eq_true, ↓reduceIte]
  cases h with
  | whole place =>
    refine ⟨place, ?_⟩
    have hmode := State.deliver_mode (s := { s with place }) hstack v
    simp only [State.step, hmode]
    exact hgoOn _
  | @number place negative n hvalue hends =>
    refine ⟨place, ?_⟩
    simp only [State.step, hends b hb, hvalue]
    rw [hgoOn]
    exact congrArg (State.afterValue · b) (State.deliver_of_mode { s with place } _ v)

/-- At the end of the document the value is there. -/
theorem Reads.finish (h : Reads s v t) (hstack : s.stack = []) : t.finish = .ok v := by
  have hmode : ∀ u : State, u.stack = [] → (u.deliver v).mode = .done v := fun u hu => by
    rw [State.deliver, hu]
  cases h with
  | whole place => simp only [State.finish, hmode { s with place } hstack]
  | @number place negative n hvalue hends =>
    simp only [State.finish, hvalue, hmode { s with mode := .number negative n, place } hstack]

/-! ### Values -/

/-- The text of a value is read as the value with its members in order, wherever a value is
expected and there is room for it. -/
def ReadBack (limit : Option Nat) (v : Json) : Prop :=
  ∀ s : State, s.Awaits → Room limit s.depth (nesting v) →
    ∃ t, s.feed limit (utf8 (compact v)) = .ok t ∧ Reads s (sorted v) t

/-- The rest of a word, and with it the word. -/
theorem word_read (rest : List UInt8) (hrest : rest ≠ []) (s : State) (v : Json) :
    ∃ place, { s with mode := .word rest v }.feed limit rest = .ok ({ s with place }.deliver v) := by
  induction rest generalizing s with
  | nil => exact absurd rfl hrest
  | cons x rest ih =>
    cases rest with
    | nil =>
      refine ⟨s.place.after x, ?_⟩
      simp only [State.feed, State.step, ne_eq, not_true, ↓reduceIte, List.isEmpty_nil]
      exact congrArg Except.ok (State.deliver_of_mode { s with place := s.place.after x } _ v)
    | cons y rest =>
      obtain ⟨place, hread⟩ := ih (List.cons_ne_nil _ _) { s with place := s.place.after x }
      refine ⟨place, (State.feed_cons ?_ _).trans hread⟩
      simp only [State.step, ne_eq, not_true, ↓reduceIte, List.isEmpty_cons, Bool.false_eq_true]

theorem readBack_word {v : Json} {b : UInt8} {rest : List UInt8} (hsorted : sorted v = v)
    (htext : utf8 (compact v) = b :: rest) (hrest : rest ≠ []) (hspace : isSpace b = false)
    (hend : b ≠ 93)
    (hbegin : ∀ s : State, s.beginValue limit b =
      .ok { s with mode := .word rest v, place := s.place.after b }) : ReadBack limit v := by
  intro s hs _
  obtain ⟨place, hread⟩ := word_read rest hrest { s with place := s.place.after b } v
  refine ⟨{ s with place }.deliver v, ?_, hsorted.symm ▸ Reads.whole place⟩
  rw [htext, State.feed_cons ((hs.step hspace hend).trans (hbegin s)), hread]

theorem readBack_str (text : String) : ReadBack limit (.str text) := by
  intro s hs _
  obtain ⟨place, hread⟩ := quoted_read false (s := s) (hs.step rfl (by decide)) text
  exact ⟨_, hread, .whole place⟩

/-- The items behind the first one are read, and the end of the array. -/
theorem items_read {rest : List Json} (hrest : ∀ v ∈ rest, ReadBack limit v)
    (hroom : Room limit s.depth (nestingItems rest + 1)) {mode : Mode} {done : List Json}
    {place : Position} (h : Reads (s.inside mode (.list done) place) v t) :
    ∃ last, t.feed limit (utf8 (compactItems rest)) =
      .ok ({ s with place := last }.deliver (.arr (done.reverse ++ v :: sortedItems rest))) := by
  induction rest generalizing t v mode done place with
  | nil =>
    obtain ⟨place, hstep⟩ := h.step rfl (b := 93) (.inr (.inl rfl))
    refine ⟨place.after 93, (State.feed_cons (hstep.trans ?_) []).trans (State.feed_nil _ _)⟩
    have hitems : done.reverse ++ v :: sortedItems [] = (v :: done).reverse :=
      List.reverse_cons.symm
    rw [hitems]
    exact congrArg Except.ok (s.close_inside .afterValue (.list (v :: done)) (place.after 93)
      (.arr (v :: done).reverse))
  | cons w rest ih =>
    obtain ⟨place, hstep⟩ := h.step rfl (b := 44) (.inl rfl)
    have hcomma : t.step limit 44 = .ok (s.inside .nextItem (.list (v :: done)) (place.after 44)) := hstep
    obtain ⟨u, hread, hu⟩ := hrest w List.mem_cons_self
      (s.inside .nextItem (.list (v :: done)) (place.after 44)) (.inr (.inr rfl))
      (hroom.inner (Nat.le_max_left _ _))
    obtain ⟨last, hlast⟩ := ih (fun x hx => hrest x (List.mem_cons_of_mem _ hx))
      (hroom.mono (Nat.succ_le_succ (Nat.le_max_right _ _))) hu
    refine ⟨last, ?_⟩
    rw [compactItems, List.cons_append, utf8_cons, utf8_append]
    refine (State.feed_cons hcomma _).trans ((State.feed_append hread _).trans (hlast.trans ?_))
    rw [sortedItems, List.reverse_cons, List.append_assoc, List.singleton_append]

theorem readBack_arr {items : List Json} (h : ∀ v ∈ items, ReadBack limit v) :
    ReadBack limit (.arr items) := by
  intro s hs hroom
  have hopen : s.step limit 91 = .ok (s.inside .firstItem (.list []) (s.place.after 91)) :=
    (hs.step rfl (by decide)).trans (State.enter_of_room hroom _ _ _)
  cases items with
  | nil =>
    have hend : (s.inside .firstItem (.list []) (s.place.after 91)).step limit 93 =
        .ok ({ s with place := (s.place.after 91).after 93 }.deliver (.arr [])) :=
      congrArg Except.ok (s.close_inside .firstItem (.list []) ((s.place.after 91).after 93) (.arr []))
    exact ⟨_, (State.feed_cons hopen _).trans (State.feed_cons hend []), .whole _⟩
  | cons v rest =>
    obtain ⟨t, hread, ht⟩ := h v List.mem_cons_self (s.inside .firstItem (.list []) (s.place.after 91))
      (.inr (.inl rfl)) (hroom.inner (Nat.le_max_left _ _))
    obtain ⟨last, hlast⟩ := items_read (fun x hx => h x (List.mem_cons_of_mem _ hx))
      (hroom.mono (Nat.succ_le_succ (Nat.le_max_right _ _))) ht
    refine ⟨_, ?_, .whole last⟩
    rw [compact, List.cons_append, utf8_cons, utf8_append]
    exact (State.feed_cons hopen _).trans ((State.feed_append hread _).trans hlast)

/-! ### Objects -/

theorem compactMembers_cons (m : String × Json) (rest : List (String × Json)) :
    compactMembers (m :: rest) = ',' :: ((stringText m.1 ++ ':' :: compact m.2) ++ compactMembers rest) := by
  simp only [compactMembers, List.cons_append, List.append_assoc]

theorem compact_obj_cons (m : String × Json) (rest : List (String × Json)) :
    compact (.obj (m :: rest)) =
      '\x7b' :: ((stringText m.1 ++ ':' :: compact m.2) ++ compactMembers rest) := by
  simp only [compact, List.cons_append, List.append_assoc]

/-- A key is read, and the colon behind it. -/
theorem key_read (key : String) {mode : Mode} (hmode : mode = .firstKey ∨ mode = .nextKey) (s : State)
    (done : Members) (place : Position) :
    ∃ next, (s.inside mode (.object done) place).feed limit (utf8 (stringText key ++ [':'])) =
      .ok (s.inside .value (.member done key) next) := by
  have hopen : (s.inside mode (.object done) place).step limit 34 =
      .ok ((s.inside mode (.object done) place).openString true (place.after 34)) := by
    rcases hmode with rfl | rfl <;> rfl
  obtain ⟨colon, hkey⟩ := quoted_read true hopen key
  refine ⟨colon.after 58, ?_⟩
  rw [utf8_append, State.feed_append hkey]
  exact State.feed_cons rfl []

/-- A member is read up to its value. -/
theorem member_read (key : String) (hv : ReadBack limit v) {mode : Mode}
    (hmode : mode = .firstKey ∨ mode = .nextKey) (s : State)
    (hroom : Room limit (s.depth + 1) (nesting v)) (done : Members) (place : Position) :
    ∃ t next, (s.inside mode (.object done) place).feed limit
        (utf8 (stringText key ++ ':' :: compact v)) = .ok t ∧
      Reads (s.inside .value (.member done key) next) (sorted v) t := by
  obtain ⟨next, hkey⟩ := @key_read limit key mode hmode s done place
  obtain ⟨t, hread, ht⟩ := hv (s.inside .value (.member done key) next) (.inl rfl) hroom
  refine ⟨t, next, ?_, ht⟩
  rw [List.append_cons, utf8_append, State.feed_append hkey, hread]

/-- The members behind the first one are read, and the end of the object. -/
theorem members_read {rest : List (String × Json)} (hrest : ∀ m ∈ rest, ReadBack limit m.2)
    (hroom : Room limit s.depth (nestingMembers rest + 1)) {mode : Mode} {done : Members} {key : String}
    {place : Position}
    (h : Reads (s.inside mode (.member done key) place) v t) :
    ∃ last, t.feed limit (utf8 (compactMembers rest)) =
      .ok ({ s with place := last }.deliver
        (.obj (rest.foldl (fun acc (m : String × Json) => Members.insert m.1 (sorted m.2) acc)
          (Members.insert key v done)))) := by
  induction rest generalizing t v mode done key place with
  | nil =>
    obtain ⟨place, hstep⟩ := h.step rfl (b := 125) (.inr (.inr rfl))
    refine ⟨place.after 125, (State.feed_cons (hstep.trans ?_) []).trans (State.feed_nil _ _)⟩
    exact congrArg Except.ok (s.close_inside .afterValue (.object (Members.insert key v done))
      (place.after 125) (.obj (Members.insert key v done)))
  | cons m rest ih =>
    obtain ⟨place, hstep⟩ := h.step rfl (b := 44) (.inl rfl)
    have hcomma : t.step limit 44 =
        .ok (s.inside .nextKey (.object (Members.insert key v done)) (place.after 44)) := hstep
    obtain ⟨u, next, hread, hu⟩ := member_read m.1 (hrest m List.mem_cons_self) (.inr rfl) s
      (hroom.inner (Nat.le_max_left _ _)) (Members.insert key v done) (place.after 44)
    obtain ⟨last, hlast⟩ := ih (fun x hx => hrest x (List.mem_cons_of_mem _ hx))
      (hroom.mono (Nat.succ_le_succ (Nat.le_max_right _ _))) hu
    refine ⟨last, ?_⟩
    rw [compactMembers_cons, utf8_cons, utf8_append]
    exact (State.feed_cons hcomma _).trans ((State.feed_append hread _).trans hlast)

theorem readBack_obj {ms : List (String × Json)} (h : ∀ m ∈ ms, ReadBack limit m.2) :
    ReadBack limit (.obj ms) := by
  intro s hs hroom
  have hopen : s.step limit 123 = .ok (s.inside .firstKey (.object []) (s.place.after 123)) :=
    (hs.step rfl (by decide)).trans (State.enter_of_room hroom _ _ _)
  cases ms with
  | nil =>
    have hend : (s.inside .firstKey (.object []) (s.place.after 123)).step limit 125 =
        .ok ({ s with place := (s.place.after 123).after 125 }.deliver (.obj [])) :=
      congrArg Except.ok (s.close_inside .firstKey (.object []) ((s.place.after 123).after 125) (.obj []))
    exact ⟨_, (State.feed_cons hopen _).trans (State.feed_cons hend []), .whole _⟩
  | cons m rest =>
    obtain ⟨t, next, hread, ht⟩ := member_read m.1 (h m List.mem_cons_self) (.inl rfl) s
      (hroom.inner (Nat.le_max_left _ _)) [] (s.place.after 123)
    obtain ⟨last, hlast⟩ := members_read (fun x hx => h x (List.mem_cons_of_mem _ hx))
      (hroom.mono (Nat.succ_le_succ (Nat.le_max_right _ _))) ht
    have hsorted := foldl_insert_eq (m :: rest)
    rw [List.foldl_cons] at hsorted
    rw [hsorted] at hlast
    refine ⟨_, ?_, .whole last⟩
    rw [compact_obj_cons, utf8_cons, utf8_append]
    exact (State.feed_cons hopen _).trans ((State.feed_append hread _).trans hlast)

/-! ### Documents -/

/-- **Wherever a value is expected, the text of an exact one is read as it.** -/
theorem Exact.readBack {v : Json} (h : Exact v) : ReadBack limit v := by
  induction h with
  | null => exact readBack_word rfl rfl (by decide) rfl (by decide) fun s => rfl
  | bool b => cases b <;> exact readBack_word rfl rfl (by decide) rfl (by decide) fun s => rfl
  | int hfits => exact fun s hs _ => int_read hs hfits
  | str text => exact readBack_str text
  | arr hitems ih => exact readBack_arr ih
  | obj hvalues ih => exact readBack_obj ih

/-- A value without floats is read back from its text, with the members of its objects in order, if it is
nested less deep than is allowed. -/
theorem read_compact_of_room {v : Json} (h : Exact v) (hroom : Room limit 0 (nesting v)) :
    read limit (utf8 (compact v)) = .ok (sorted v) := by
  obtain ⟨t, hread, ht⟩ := h.readBack (.initial 0 .start) (.inl rfl) hroom
  rw [read, hread]
  exact ht.finish rfl

/-- **A value without floats is read back from its text**, with the members of its objects in order. -/
theorem read_compact {v : Json} (h : Exact v) : read none (utf8 (compact v)) = .ok (sorted v) :=
  read_compact_of_room h nofun

end ProfileBrowser.Json
