import ProfileBrowser.Proofs.Received
/-!
# Fields of a record

What a decoded record has from one member (`Json.IsField`): another value there changes that field alone,
wherever the member stands, in an object or in an array of the fields (`Json.DecodesRecord.replaced`). A
member under a key that is no field's is passed over (`Json.DecodesRecord.extended`). Both are shown here of
flame nodes and of the diagrams; a row keeps such a member among its others (`TableRow.decode_extended`).
-/

namespace ProfileBrowser

open Json

namespace Json

/-! ### Changes to a written record -/

/-- **An object with one more member**, under a key that it does not have and that is none of the known
ones. -/
inductive Extended (known : List String) (key : String) (value : Json) : Json → Json → Prop where
  | intro {ms : Members} (hunknown : key ∉ known) (hnew : Members.get? key ms = none) :
    Extended known key value (.obj ms) (.obj (Members.insert key value ms))

/-- **A record with another value of one field**, as an object or as an array of its fields. -/
inductive Replaced (fields : List String) (key : String) (w w' : Json) : Json → Json → Prop where
  | member {ms : Members} (hw : Members.get? key ms = some w) :
    Replaced fields key w w' (.obj ms) (.obj (Members.insert key w' ms))
  | item {items : List Json} {i : Nat} (hkey : fields[i]? = some key) (hw : items[i]? = some w) :
    Replaced fields key w w' (.arr items) (.arr (items.set i w'))

variable {key : String} {v v' w w' : Json}

/-- What is replaced was a part of the record. -/
theorem Replaced.ordered {fields : List String} (h : Replaced fields key w w' v v') (hv : v.Ordered) :
    w.Ordered := by
  cases h with
  | member hw => exact hv.members _ (Members.mem_of_get? hw)
  | item hkey hw => exact hv.items _ (List.mem_of_getElem? hw)

/-- Where the value of a field stands among the items of an array. -/
theorem exists_split_zip {keys : List String} (hkeys : keys.Nodup) {items : List Json} {i : Nat}
    (hkey : keys[i]? = some key) (hw : items[i]? = some w) :
    ∃ before after, keys.zip items = before ++ (key, w) :: after ∧ (∀ m ∈ after, m.1 ≠ key) ∧
      ∀ u, keys.zip (items.set i u) = before ++ (key, u) :: after := by
  induction keys generalizing items i with
  | nil => cases hkey
  | cons k keys ih =>
    obtain ⟨hk, hkeys⟩ := List.nodup_cons.mp hkeys
    cases items with
    | nil => cases hw
    | cons first items =>
      cases i with
      | zero =>
        obtain rfl : k = key := Option.some.inj hkey
        obtain rfl : first = w := Option.some.inj hw
        refine ⟨[], keys.zip items, rfl, ?_, fun u => rfl⟩
        rintro ⟨j, u⟩ hm rfl
        exact hk (List.of_mem_zip hm).1
      | succ i =>
        obtain ⟨before, after, hzip, hafter, hset⟩ := ih hkeys hkey hw
        refine ⟨(k, first) :: before, after, ?_, hafter, fun u => ?_⟩
        · rw [List.zip_cons_cons, hzip, List.cons_append]
        · rw [List.set_cons_succ, List.zip_cons_cons, hset, List.cons_append]

/-! ### Fields -/

section Fields

variable {ε σ α : Type} {take : σ → String × Json → Except ε σ} {read : Json → Except ε α}
  {put : α → σ → σ}

theorem map_eq_ok {β : Type} {x : Except ε α} {f : α → β} {b : β} (h : x.map f = .ok b) :
    ∃ a, x = .ok a ∧ f a = b := by
  cases x with
  | error e => cases h
  | ok a => exact ⟨a, rfl, Except.ok.inj h⟩

/-- What a change does to a record before members of other keys are taken it does after them. -/
theorem foldlM_swap {set : σ → σ} (hswap : ∀ r m, m.1 ≠ key → take (set r) m = (take r m).map set)
    {ms : List (String × Json)} (hms : ∀ m ∈ ms, m.1 ≠ key) (r : σ) :
    ms.foldlM take (set r) = (ms.foldlM take r).map set := by
  induction ms generalizing r with
  | nil => rfl
  | cons m rest ih =>
    obtain ⟨hm, hrest⟩ := List.forall_mem_cons.mp hms
    rw [List.foldlM_cons, List.foldlM_cons, hswap r m hm]
    cases take r m with
    | error e => rfl
    | ok r => exact ih hrest r

/-- **A field of a record**: the member of its key is read and put in, and members of other keys are taken
as if it had not been. -/
structure IsField (take : σ → String × Json → Except ε σ) (key : String) (read : Json → Except ε α)
    (put : α → σ → σ) : Prop where
  take_eq : ∀ r v, take r (key, v) = (read v).map fun a => put a r
  swap : ∀ a r m, m.1 ≠ key → take (put a r) m = (take r m).map (put a)

/-- **A field has what its last member says**, and whatever that member is given instead. -/
theorem IsField.replace (hf : IsField take key read put) {before after : List (String × Json)}
    (hafter : ∀ m ∈ after, m.1 ≠ key) {r s : σ}
    (h : (before ++ (key, v) :: after).foldlM take r = .ok s) :
    ∃ a s₀, read v = .ok a ∧ s = put a s₀ ∧ ∀ w b, read w = .ok b →
      (before ++ (key, w) :: after).foldlM take r = .ok (put b s₀) := by
  rw [List.foldlM_append] at h
  obtain ⟨t, hbefore, h⟩ := bind_eq_ok h
  rw [List.foldlM_cons, hf.take_eq] at h
  obtain ⟨u, htake, h⟩ := bind_eq_ok h
  obtain ⟨a, hread, rfl⟩ := map_eq_ok htake
  -- The later members are of other fields, so the value can be put in after them.
  rw [foldlM_swap (hf.swap a) hafter] at h
  obtain ⟨s₀, hrest, rfl⟩ := map_eq_ok h
  refine ⟨a, s₀, hread, rfl, fun w b hw => ?_⟩
  rw [List.foldlM_append, hbefore]
  show ((key, w) :: after).foldlM take t = _
  rw [List.foldlM_cons, hf.take_eq, hw]
  show after.foldlM take (put b t) = _
  rw [foldlM_swap (hf.swap b) hafter, hrest]
  rfl

/-- So it is with the members of an object. -/
theorem IsField.insert (hf : IsField take key read put) {ms : Members} (hkeys : ms.Ascending)
    (hv : Members.get? key ms = some v) {r s : σ} (h : ms.foldlM take r = .ok s) :
    ∃ a s₀, read v = .ok a ∧ s = put a s₀ ∧ ∀ w b, read w = .ok b →
      (Members.insert key w ms).foldlM take r = .ok (put b s₀) := by
  obtain ⟨before, after, rfl, hafter, hinsert⟩ := hkeys.exists_split hv
  obtain ⟨a, s₀, hread, hs, hreplace⟩ := hf.replace hafter h
  refine ⟨a, s₀, hread, hs, fun w b hw => ?_⟩
  rw [hinsert]
  exact hreplace w b hw

/-- A member that is passed over may be added. -/
theorem foldlM_insert_unknown (htake : ∀ r, take r (key, v) = .ok r) {ms : Members}
    (hnew : Members.get? key ms = none) (r : σ) :
    (Members.insert key v ms).foldlM take r = ms.foldlM take r := by
  refine foldlM_insert id htake (fun r m _ => ?_) hnew r
  show take r m = (take r m).map id
  cases take r m <;> rfl

end Fields

section Records

variable {σ α : Type} {fields : List String} {take : σ → String × Json → Except DecodeError σ} {blank s : σ}
  {decode : Json → Except DecodeError σ} {read : Json → Except DecodeError α} {put : α → σ → σ}

/-- **How a record is decoded**: the members of an object are taken one after the other, or the items of an
array as the values of the fields, of which there may not be fewer. -/
structure DecodesRecord (fields : List String) (take : σ → String × Json → Except DecodeError σ) (blank : σ)
    (decode : Json → Except DecodeError σ) : Prop where
  obj : ∀ ms, decode (.obj ms) = ms.foldlM take blank
  arr : ∀ items, decode (.arr items) = (fields.zip items).foldlM take blank >>= fun r =>
    if fields.length < items.length then .error (.tooManyItems items.length) else .ok r
  nodup : fields.Nodup
  unknown : ∀ r m, m.1 ∉ fields → take r m = .ok r

/-- **A member of no field is passed over.** -/
theorem DecodesRecord.extended (hd : DecodesRecord fields take blank decode) {value : Json}
    (h : Extended fields key value v v') : decode v' = decode v := by
  obtain ⟨hunknown, hnew⟩ := h
  rw [hd.obj, hd.obj]
  exact foldlM_insert_unknown (fun r => hd.unknown r (key, value) hunknown) hnew blank

/-- **Another value of a field** changes that field alone, in whichever form the record is written. -/
theorem DecodesRecord.replaced (hd : DecodesRecord fields take blank decode)
    (hf : IsField take key read put) (h : Replaced fields key w w' v v') (hv : v.Ordered)
    (hdecode : decode v = .ok s) :
    ∃ a s₀, read w = .ok a ∧ s = put a s₀ ∧ ∀ b, read w' = .ok b → decode v' = .ok (put b s₀) := by
  cases h with
  | member hw =>
    rw [hd.obj] at hdecode
    obtain ⟨a, s₀, hread, hs, hreplace⟩ := hf.insert hv.keys hw hdecode
    refine ⟨a, s₀, hread, hs, fun b hb => ?_⟩
    rw [hd.obj]
    exact hreplace w' b hb
  | @item items i hkey hw =>
    rw [hd.arr] at hdecode
    obtain ⟨t, hfold, hlength⟩ := bind_eq_ok hdecode
    obtain ⟨before, after, hzip, hafter, hset⟩ := exists_split_zip hd.nodup hkey hw
    rw [hzip] at hfold
    obtain ⟨a, s₀, hread, hs, hreplace⟩ := hf.replace hafter hfold
    split_ifs at hlength with hmore
    cases hlength
    refine ⟨a, s₀, hread, hs, fun b hb => ?_⟩
    rw [hd.arr, hset, hreplace w' b hb, List.length_set]
    exact if_neg hmore

/-- **A field that is read like before** leaves the record as it was. -/
theorem DecodesRecord.replaced_same (hd : DecodesRecord fields take blank decode)
    (hf : IsField take key read put) (h : Replaced fields key w w' v v') (hv : v.Ordered)
    (hsame : ∀ a, read w = .ok a → read w' = .ok a) (hdecode : decode v = .ok s) : decode v' = .ok s := by
  obtain ⟨a, s₀, hread, rfl, hreplace⟩ := hd.replaced hf h hv hdecode
  exact hreplace a (hsame a hread)

/-- One item that is decoded otherwise changes the decoded items in its place. -/
theorem mapM_set {β γ : Type} {item : β → Except DecodeError γ} {items : List β} {decoded : List γ} {i : Nat}
    {a : β} (ha : items[i]? = some a) (h : items.mapM item = .ok decoded) :
    ∃ b, decoded[i]? = some b ∧ item a = .ok b ∧
      ∀ a' b', item a' = .ok b' → (items.set i a').mapM item = .ok (decoded.set i b') := by
  induction items generalizing i decoded with
  | nil => cases ha
  | cons first rest ih =>
    rw [List.mapM_cons] at h
    obtain ⟨b, hfirst, h⟩ := bind_eq_ok h
    obtain ⟨more, hrest, heq⟩ := bind_eq_ok h
    cases heq
    cases i with
    | zero =>
      obtain rfl : first = a := Option.some.inj ha
      refine ⟨b, rfl, hfirst, fun a' b' ha' => ?_⟩
      rw [List.set_cons_zero, List.mapM_cons, ha', hrest]
      rfl
    | succ i =>
      obtain ⟨c, hc, hdecode, hset⟩ := ih ha hrest
      refine ⟨c, hc, hdecode, fun a' b' ha' => ?_⟩
      rw [List.set_cons_succ, List.mapM_cons, hfirst, hset a' b' ha']
      rfl

end Records

end Json

/-! ### Flame nodes -/

namespace FlameNode

/-- Takes one member into a node. -/
def takeMember (n : FlameNode) (m : String × Json) : Except DecodeError FlameNode :=
  if m.1 = "children" then do return mk n.id n.name n.value (← decodeChildren m.2)
  else takeScalar n m.1 m.2

theorem decodeMembers_eq_foldlM (n : FlameNode) (ms : Members) :
    decodeMembers n ms = ms.foldlM takeMember n := by
  induction ms generalizing n with
  | nil => rfl
  | cons m rest ih =>
    obtain ⟨key, v⟩ := m
    rw [decodeMembers, List.foldlM_cons, takeMember]
    split_ifs
    · cases decodeChildren v with
      | error e => rfl
      | ok children => exact ih _
    · cases takeScalar n key v with
      | error e => rfl
      | ok n => exact ih n

theorem decodeNodes_eq_mapM (items : List Json) : decodeNodes items = items.mapM decode := by
  induction items with
  | nil => rfl
  | cons v rest ih => rw [decodeNodes, List.mapM_cons, ih]

theorem decodeFields_eq_foldlM (n : FlameNode) {i : Nat} (hi : i ≤ fields.length) (items : List Json) :
    decodeFields n i items = ((fields.drop i).zip items).foldlM takeMember n >>= fun n =>
      if fields.length < i + items.length then .error (.tooManyItems (i + items.length)) else .ok n := by
  induction items generalizing n i with
  | nil =>
    rw [decodeFields, List.zip_nil_right]
    exact (if_neg (not_lt.mpr hi)).symm
  | cons v rest ih =>
    have hcount : i + (v :: rest).length = i + 1 + rest.length := by
      rw [List.length_cons]
      omega
    rw [hcount]
    rcases hi.lt_or_eq with hlt | rfl
    · have hdrop : fields.drop i = fields.getD i "" :: fields.drop (i + 1) :=
        match i, hlt with
        | 0, _ | 1, _ | 2, _ | 3, _ => rfl
      have hnext : decodeFields n i (v :: rest) =
          n.takeMember (fields.getD i "", v) >>= fun n => decodeFields n (i + 1) rest := by
        rw [decodeFields]
        match i, hlt with
        | 0, _ | 1, _ | 2, _ => rfl
        | 3, _ =>
          show decodeChildren v >>= _ = (decodeChildren v >>= _) >>= _
          cases decodeChildren v <;> rfl
      rw [hnext, hdrop, List.zip_cons_cons, List.foldlM_cons]
      cases n.takeMember (fields.getD i "", v) with
      | error e => rfl
      | ok n => exact ih n hlt
    · have hmany : fields.length < fields.length + 1 + rest.length := by omega
      rw [decodeFields, List.drop_length, List.zip_nil_left]
      exact (if_pos hmany).symm

theorem takeMember_of_unknown (n : FlameNode) (m : String × Json) (h : m.1 ∉ fields) :
    n.takeMember m = .ok n := by
  simp only [fields, List.mem_cons, List.not_mem_nil, or_false, not_or] at h
  simp [takeMember, takeScalar, h]

theorem decodesRecord : DecodesRecord fields takeMember (mk 0 "" 0 []) decode where
  obj ms := by rw [decode, decodeMembers_eq_foldlM]
  arr items := by
    rw [decode, decodeFields_eq_foldlM _ (Nat.zero_le _), Nat.zero_add, List.drop_zero]
  nodup := by decide
  unknown := takeMember_of_unknown

theorem isField_children :
    IsField takeMember "children" decodeChildren fun children n => mk n.id n.name n.value children where
  take_eq n v := by
    rw [takeMember, if_pos rfl]
    cases decodeChildren v <;> rfl
  swap children n m hm := by
    rw [takeMember, takeMember, if_neg hm, if_neg hm]
    unfold takeScalar
    split_ifs
    · cases decodeWord m.2 <;> rfl
    · cases decodeString m.2 <;> rfl
    · cases decodeWord m.2 <;> rfl
    · rfl

end FlameNode

/-! ### Diagrams -/

namespace Diagrams

theorem takeMember_of_unknown (d : Diagrams) (m : String × Json) (h : m.1 ∉ fields) :
    d.takeMember m = .ok d := by
  simp only [fields, List.mem_cons, List.not_mem_nil, or_false, not_or] at h
  simp [takeMember, h]

theorem decodesRecord : DecodesRecord fields takeMember {} decode where
  obj ms := rfl
  arr items := by
    rw [decode]
    split_ifs <;> rfl
  nodup := by decide
  unknown := takeMember_of_unknown

theorem isField_table :
    IsField takeMember "table_data" (decodeItems TableRow.decode) fun rows d => { d with table := rows } where
  take_eq d v := by
    simp only [takeMember, String.reduceEq, ↓reduceIte]
    cases decodeItems TableRow.decode v <;> rfl
  swap rows d m hm := by
    unfold takeMember
    split_ifs
    · cases decodeString m.2 <;> rfl
    · cases decodeOptional FlameNode.decode m.2 <;> rfl
    · cases decodeOptional (fun v => .ok v) m.2 <;> rfl
    · rfl

theorem isField_flame :
    IsField takeMember "flame_data" (decodeOptional FlameNode.decode)
      fun flame d => { d with flame := flame } where
  take_eq d v := by
    simp only [takeMember, String.reduceEq, ↓reduceIte]
    cases decodeOptional FlameNode.decode v <;> rfl
  swap flame d m hm := by
    unfold takeMember
    split_ifs
    · cases decodeString m.2 <;> rfl
    · cases decodeItems TableRow.decode m.2 <;> rfl
    · cases decodeOptional (fun v => .ok v) m.2 <;> rfl
    · rfl

end Diagrams

/-! ### Rows -/

namespace TableRow

/-- The row with one more member among the others. -/
def keep (key : String) (value : Json) (row : TableRow) : TableRow :=
  { row with extra := Members.insert key value row.extra }

theorem takeMember_keep {key : String} {m : String × Json} (hm : m.1 ≠ key) (value : Json)
    (row : TableRow) :
    (row.keep key value).takeMember m = (row.takeMember m).map (keep key value) := by
  by_cases hown : m.1 ∈ names
  · unfold takeMember
    split_ifs with hid hname hself htotal
    · cases decodeWord m.2 <;> rfl
    · cases decodeString m.2 <;> rfl
    · cases decodeWord m.2 <;> rfl
    · cases decodeWord m.2 <;> rfl
    · simp only [names, List.mem_cons, List.not_mem_nil, or_false] at hown
      exact absurd hown (by simp only [hid, hname, hself, htotal, or_self, not_false_iff])
  · rw [takeMember_of_other hown, takeMember_of_other hown]
    show Except.ok (TableRow.mk _ _ _ _ _) = .ok (TableRow.mk _ _ _ _ _)
    rw [keep, Members.insert_comm hm]

/-- A key that is not among the members of a row is none of its others. -/
theorem get?_extra_of_foldlM {key : String} {ms : Members} (hms : Members.get? key ms = none)
    {row row' : TableRow} (h : ms.foldlM takeMember row = .ok row') :
    Members.get? key row'.extra = Members.get? key row.extra := by
  induction ms generalizing row with
  | nil =>
    cases h
    rfl
  | cons m rest ih =>
    rw [Members.get?_cons] at hms
    split_ifs at hms with hkey
    rw [List.foldlM_cons] at h
    obtain ⟨next, htake, h⟩ := bind_eq_ok h
    rw [ih hms h]
    by_cases hown : m.1 ∈ names
    · rw [extra_of_takeMember hown htake]
    · rw [takeMember_of_other hown] at htake
      cases htake
      rw [Members.get?_insert, if_neg hkey]

/-- **A member of no field is kept** among the others of the row, and nothing else changes. -/
theorem decode_extended {key : String} {value v v' : Json} {row : TableRow}
    (h : Extended names key value v v') (hrow : decode v = .ok row) :
    Members.get? key row.extra = none ∧ decode v' = .ok (row.keep key value) := by
  obtain ⟨hunknown, hnew⟩ := h
  rw [decode] at hrow
  refine ⟨get?_extra_of_foldlM hnew hrow, ?_⟩
  rw [decode, foldlM_insert (keep key value) (takeMember_of_other (m := (key, value)) hunknown)
    (fun r m hm => takeMember_keep hm value r) hnew,
    foldlM_swap (fun r m hm => takeMember_keep hm value r) (Members.get?_eq_none_iff.mp hnew),
    hrow]
  rfl

end TableRow

end ProfileBrowser
