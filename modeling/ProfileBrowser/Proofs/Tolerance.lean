import ProfileBrowser.Proofs.Fields
/-!
# Responses with other members

A response may be wrapped and may hold more than is asked for. An envelope around an object is answered as
the object alone, and a rejection rejects whatever else it holds. A member under a key that is no field's
changes nothing when it is added to the document, to the object that is decoded as the response, to the
diagrams or to a flame node at any depth (`Response.Extended`); in a table row it is kept, and nothing else
changes (`Response.RowExtended`).
-/

namespace ProfileBrowser

open Json

namespace Json

variable {v v' w w' : Json} {fields : List String} {key : String}

theorem Extended.ne_null {value : Json} (h : Extended fields key value v v') : v ≠ .null ∧ v' ≠ .null := by
  cases h
  simp

theorem Extended.exists_members {value : Json} (h : Extended fields key value v v') :
    ∃ ms ms', v = .obj ms ∧ v' = .obj ms' := by
  cases h
  exact ⟨_, _, rfl, rfl⟩

theorem Replaced.ne_null (h : Replaced fields key w w' v v') : v ≠ .null ∧ v' ≠ .null := by
  cases h <;> simp

theorem decodeOptional_of_ne_null {α : Type} {value : Json → Except DecodeError α} (h : v ≠ .null) :
    decodeOptional value v = (value v).map some := by
  cases v <;> simp [decodeOptional] at h ⊢

theorem exists_of_decodeOptional {α : Type} {value : Json → Except DecodeError α} {o : Option α}
    (hnull : v ≠ .null) (h : decodeOptional value v = .ok o) : ∃ a, o = some a ∧ value v = .ok a := by
  rw [decodeOptional_of_ne_null hnull] at h
  obtain ⟨a, hvalue, hsome⟩ := map_eq_ok h
  exact ⟨a, hsome.symm, hvalue⟩

/-- The members of known keys are as they were. -/
theorem Extended.get?_eq {known : List String} {value : Json} {ms ms' : Members}
    (h : Extended known key value (.obj ms) (.obj ms')) {k : String} (hk : k ∈ known) :
    Members.get? k ms' = Members.get? k ms := by
  obtain ⟨hunknown, hnew⟩ := h
  refine Members.get?_insert_of_ne ?_ value ms
  rintro rfl
  exact hunknown hk

end Json

/-! ### Flame trees -/

namespace FlameNode

/-- **A node with one more member**, its own or that of a node at any depth below it. -/
inductive Extended (key : String) (value : Json) : Json → Json → Prop where
  | here {v v' : Json} (h : Json.Extended fields key value v v') : Extended key value v v'
  | child (nodes : List Json) (i : Nat) {w w' v v' : Json} (hw : nodes[i]? = some w)
    (h : Extended key value w w')
    (hnodes : Replaced fields "children" (.arr nodes) (.arr (nodes.set i w')) v v') :
    Extended key value v v'

variable {key : String} {value v v' : Json} {n : FlameNode}

theorem Extended.ne_null (h : Extended key value v v') : v ≠ .null ∧ v' ≠ .null := by
  cases h with
  | here h => exact h.ne_null
  | child nodes i hw h hnodes => exact hnodes.ne_null

/-- **A tree is decoded as without the member.** -/
theorem decode_extended (h : Extended key value v v') (hv : v.Ordered) (hn : decode v = .ok n) :
    decode v' = .ok n := by
  induction h generalizing n with
  | here h => rwa [decodesRecord.extended h]
  | @child nodes i w w' v v' hw h hnodes ih =>
    -- The changed child is decoded like before, and so are the children, which are a field of the node.
    have hordered : w.Ordered := (hnodes.ordered hv).items w (List.mem_of_getElem? hw)
    refine decodesRecord.replaced_same isField_children hnodes hv (fun children hchildren => ?_) hn
    rw [decodeChildren, decodeNodes_eq_mapM] at hchildren ⊢
    obtain ⟨child, hchild, hdecode, hset⟩ := mapM_set hw hchildren
    obtain ⟨hlt, rfl⟩ := List.getElem?_eq_some_iff.mp hchild
    rw [hset w' _ (ih hordered hdecode), List.set_getElem_self]

end FlameNode

/-! ### Diagrams -/

namespace Diagrams

/-- **Diagrams with one more member**, their own or that of a flame node. -/
inductive Extended (key : String) (value : Json) : Json → Json → Prop where
  | here {v v' : Json} (h : Json.Extended fields key value v v') : Extended key value v v'
  | flame {w w' v v' : Json} (h : FlameNode.Extended key value w w')
    (hflame : Replaced fields "flame_data" w w' v v') : Extended key value v v'

/-- **Diagrams with one more member in a row.** -/
inductive RowExtended (key : String) (value : Json) (i : Nat) : Json → Json → Prop where
  | intro (rows : List Json) {w w' v v' : Json} (hw : rows[i]? = some w)
    (h : Json.Extended TableRow.names key value w w')
    (hrows : Replaced fields "table_data" (.arr rows) (.arr (rows.set i w')) v v') :
    RowExtended key value i v v'

variable {key : String} {value v v' : Json} {i : Nat} {d : Diagrams}

theorem Extended.ne_null (h : Extended key value v v') : v ≠ .null ∧ v' ≠ .null := by
  cases h with
  | here h => exact h.ne_null
  | flame h hflame => exact hflame.ne_null

theorem RowExtended.ne_null (h : RowExtended key value i v v') : v ≠ .null ∧ v' ≠ .null := by
  cases h with
  | intro rows hw h hrows => exact hrows.ne_null

theorem decode_extended (h : Extended key value v v') (hv : v.Ordered) (hd : decode v = .ok d) :
    decode v' = .ok d := by
  cases h with
  | here h => rwa [decodesRecord.extended h]
  | @flame w w' _ _ h hflame =>
    refine decodesRecord.replaced_same isField_flame hflame hv (fun flame hw => ?_) hd
    obtain ⟨hnull, hnull'⟩ := h.ne_null
    obtain ⟨n, rfl, hn⟩ := exists_of_decodeOptional hnull hw
    rw [decodeOptional_of_ne_null hnull', FlameNode.decode_extended h (hflame.ordered hv) hn]
    rfl

/-- **The row alone changes**, by the member that is kept among its others. -/
theorem decode_rowExtended (h : RowExtended key value i v v') (hv : v.Ordered) (hd : decode v = .ok d) :
    ∃ row, d.table[i]? = some row ∧ Members.get? key row.extra = none ∧
      decode v' = .ok { d with table := d.table.set i (row.keep key value) } := by
  obtain ⟨rows, hw, h, hrows⟩ := h
  obtain ⟨table, d₀, htable, rfl, hput⟩ := decodesRecord.replaced isField_table hrows hv hd
  rw [decodeItems] at htable
  obtain ⟨row, hrow, hdecode, hset⟩ := mapM_set hw htable
  obtain ⟨hnew, hkept⟩ := TableRow.decode_extended h hdecode
  exact ⟨row, hrow, hnew, hput _ (hset _ _ hkept)⟩

end Diagrams

/-! ### Responses -/

namespace Response

/-- The keys that say something about a response. -/
def names : List String := ["result", "data", "message", "diagrams"]

/-- The backend has rejected the request. -/
def Rejecting (ms : Members) : Prop := Members.get? "result" ms = some (.bool false)

/-- The object is no envelope but the response itself. -/
def Bare (ms : Members) : Prop := Members.get? "data" ms = none ∨ Members.get? "data" ms = some .null

variable {ms : Members} {key : String} {value v v' : Json} {i : Nat} {r : Response}

theorem rejecting_iff : Rejecting ms ↔ (Members.get? "result" ms).bind asBool? = some false := by
  rw [Rejecting]
  cases hresult : Members.get? "result" ms with
  | none => simp
  | some v => cases v <;> simp [asBool?]

theorem ofJson_of_rejecting (h : Rejecting ms) : ∃ message, ofJson (.obj ms) = .error (.api message) := by
  rw [ofJson, if_pos (rejecting_iff.mp h)]
  exact ⟨_, rfl⟩

theorem ofJson_of_data {data : Members} (h : ¬Rejecting ms) (hdata : Members.get? "data" ms = some (.obj data)) :
    ofJson (.obj ms) = ofMembers data := by
  rw [ofJson, if_neg (rejecting_iff.not.mp h), hdata]

theorem ofJson_of_bare (h : ¬Rejecting ms) (hdata : Bare ms) : ofJson (.obj ms) = ofMembers ms := by
  rw [ofJson, if_neg (rejecting_iff.not.mp h)]
  rcases hdata with hdata | hdata <;> rw [hdata]

/-- **Where an answer is read from**: from the object under `data`, or from the document itself. -/
theorem ofJson_eq_ok (h : ofJson (.obj ms) = .ok r) :
    ¬Rejecting ms ∧ ((∃ data, Members.get? "data" ms = some (.obj data) ∧ ofMembers data = .ok r) ∨
      (Bare ms ∧ ofMembers ms = .ok r)) := by
  have haccepted : ¬Rejecting ms := by
    intro hrejecting
    obtain ⟨message, herror⟩ := ofJson_of_rejecting hrejecting
    rw [herror] at h
    cases h
  refine ⟨haccepted, ?_⟩
  rw [ofJson, if_neg (rejecting_iff.not.mp haccepted)] at h
  split at h
  next data hdata => exact .inl ⟨data, hdata, h⟩
  next hdata => exact .inr ⟨.inr hdata, h⟩
  next hdata => exact .inr ⟨.inl hdata, h⟩
  next => cases h

theorem ofMembers_eq_ok : ofMembers ms = .ok r ↔ ms.foldlM takeMember {} = .ok r := by
  rw [ofMembers]
  cases ms.foldlM takeMember {} <;> simp

theorem isField_diagrams :
    IsField takeMember "diagrams" (decodeOptional Diagrams.decode) fun diagrams r => { r with diagrams } where
  take_eq r v := by
    rw [takeMember, if_pos rfl]
    cases decodeOptional Diagrams.decode v <;> rfl
  swap diagrams r m hm := by
    rw [takeMember, takeMember, if_neg hm, if_neg hm]
    rfl

/-! ### Changes to a document -/

/-- The object that is decoded as the response is changed. -/
inductive InBody (P : Json → Json → Prop) : Json → Json → Prop where
  | bare {ms ms' : Members} (hdata : Bare ms) (h : P (.obj ms) (.obj ms')) : InBody P (.obj ms) (.obj ms')
  | data {ms data data' : Members} (hdata : Members.get? "data" ms = some (.obj data))
    (h : P (.obj data) (.obj data')) : InBody P (.obj ms) (.obj (Members.insert "data" (.obj data') ms))

/-- The diagrams of a response are changed. -/
inductive InDiagrams (P : Json → Json → Prop) : Json → Json → Prop where
  | intro {ms : Members} {w w' : Json} (hw : Members.get? "diagrams" ms = some w) (h : P w w') :
    InDiagrams P (.obj ms) (.obj (Members.insert "diagrams" w' ms))

/-- **A document with one more member**: its own, or that of the object that is decoded as the response, of
the diagrams or of a flame node at any depth. -/
inductive Extended (key : String) (value : Json) : Json → Json → Prop where
  | document {v v' : Json} (h : Json.Extended names key value v v') : Extended key value v v'
  | body {v v' : Json} (h : InBody (Json.Extended names key value) v v') : Extended key value v v'
  | diagrams {v v' : Json} (h : InBody (InDiagrams (Diagrams.Extended key value)) v v') :
    Extended key value v v'

/-- **A document with one more member in a row.** -/
def RowExtended (key : String) (value : Json) (i : Nat) : Json → Json → Prop :=
  InBody (InDiagrams (Diagrams.RowExtended key value i))

theorem ofMembers_extended {ms' : Members} (h : Json.Extended names key value (.obj ms) (.obj ms')) :
    ofMembers ms' = ofMembers ms := by
  obtain ⟨hunknown, hnew⟩ := h
  have htake : ∀ r : Response, r.takeMember (key, value) = .ok r := by
    intro r
    simp only [names, List.mem_cons, List.not_mem_nil, or_false, not_or] at hunknown
    rw [takeMember, if_neg hunknown.2.2.2]
  rw [ofMembers, ofMembers, foldlM_insert_unknown htake hnew]

/-- An answer has the diagrams that are decoded from it. -/
theorem ofMembers_inDiagrams {P : Json → Json → Prop} {ms' : Members}
    (h : InDiagrams P (.obj ms) (.obj ms')) (hms : Ordered (.obj ms)) (hr : ofMembers ms = .ok r) :
    ∃ w w', P w w' ∧ w.Ordered ∧ decodeOptional Diagrams.decode w = .ok r.diagrams ∧
      ∀ diagrams, decodeOptional Diagrams.decode w' = .ok diagrams → ofMembers ms' = .ok ⟨diagrams⟩ := by
  obtain ⟨hw, h⟩ := h
  obtain ⟨diagrams, r₀, hread, rfl, hput⟩ :=
    isField_diagrams.insert hms.keys hw (ofMembers_eq_ok.mp hr)
  refine ⟨_, _, h, hms.members _ (Members.mem_of_get? hw), hread, fun diagrams hdiagrams => ?_⟩
  exact ofMembers_eq_ok.mpr (hput _ _ hdiagrams)

/-- A change that leaves what an envelope says. -/
theorem ofJson_inBody {P : Json → Json → Prop} (h : InBody P v v')
    (hkeeps : ∀ ms ms' : Members, P (.obj ms) (.obj ms') →
      Members.get? "result" ms' = Members.get? "result" ms ∧ Members.get? "data" ms' = Members.get? "data" ms)
    (hv : v.Ordered) (hr : ofJson v = .ok r) :
    ∃ ms ms', P (.obj ms) (.obj ms') ∧ Ordered (.obj ms) ∧ ofMembers ms = .ok r ∧
      ofJson v' = ofMembers ms' := by
  cases h with
  | @bare ms ms' hdata h =>
    obtain ⟨haccepted, ⟨data, hobj, -⟩ | ⟨-, hbody⟩⟩ := ofJson_eq_ok hr
    · rcases hdata with hdata | hdata <;> rw [hdata] at hobj <;> cases hobj
    · obtain ⟨hresult, hsame⟩ := hkeeps ms ms' h
      refine ⟨ms, ms', h, hv, hbody, ofJson_of_bare ?_ ?_⟩
      · rwa [Rejecting, hresult]
      · rwa [Bare, hsame]
  | @data ms data data' hdata h =>
    obtain ⟨haccepted, ⟨data, hobj, hbody⟩ | ⟨hbare, -⟩⟩ := ofJson_eq_ok hr
    · rw [hdata] at hobj
      cases hobj
      refine ⟨_, data', h, hv.members _ (Members.mem_of_get? hdata), hbody, ofJson_of_data ?_ ?_⟩
      · rwa [Rejecting, Members.get?_insert_of_ne (by decide)]
      · rw [Members.get?_insert, if_pos rfl]
    · rcases hbare with hbare | hbare <;> rw [hdata] at hbare <;> cases hbare

theorem InDiagrams.keeps {P : Json → Json → Prop} {ms' : Members} (h : InDiagrams P (.obj ms) (.obj ms')) :
    Members.get? "result" ms' = Members.get? "result" ms ∧ Members.get? "data" ms' = Members.get? "data" ms := by
  obtain ⟨hw, h⟩ := h
  exact ⟨Members.get?_insert_of_ne (by decide) _ ms, Members.get?_insert_of_ne (by decide) _ ms⟩

/-- **A member of no field changes no answer.** -/
theorem ofJson_extended (h : Extended key value v v') (hv : v.Ordered) (hr : ofJson v = .ok r) :
    ofJson v' = .ok r := by
  cases h with
  | document h =>
    -- The answer is read from the same place: the document says the same about its result and its data.
    obtain ⟨ms, ms', rfl, rfl⟩ := h.exists_members
    have hresult := h.get?_eq (show "result" ∈ names by decide)
    have hdata := h.get?_eq (show "data" ∈ names by decide)
    obtain ⟨haccepted, hread⟩ := ofJson_eq_ok hr
    have haccepted' : ¬Rejecting ms' := by rwa [Rejecting, hresult]
    rcases hread with ⟨data, hobj, hbody⟩ | ⟨hbare, hbody⟩
    · rwa [ofJson_of_data haccepted' (hdata.trans hobj)]
    · have hbare' : Bare ms' := by rwa [Bare, hdata]
      rwa [ofJson_of_bare haccepted' hbare', ofMembers_extended h]
  | body h =>
    obtain ⟨ms, ms', h, -, hbody, hsame⟩ := ofJson_inBody h
      (fun ms ms' h => ⟨h.get?_eq (by decide), h.get?_eq (by decide)⟩) hv hr
    rw [hsame, ofMembers_extended h, hbody]
  | diagrams h =>
    obtain ⟨ms, ms', h, hms, hbody, hsame⟩ := ofJson_inBody h (fun ms ms' h => h.keeps) hv hr
    obtain ⟨w, w', h, hw, hread, hput⟩ := ofMembers_inDiagrams h hms hbody
    obtain ⟨hnull, hnull'⟩ := h.ne_null
    obtain ⟨d, hd, hdecode⟩ := exists_of_decodeOptional hnull hread
    rw [hsame]
    refine hput r.diagrams ?_
    rw [decodeOptional_of_ne_null hnull', Diagrams.decode_extended h hw hdecode, hd]
    rfl

/-- **A member that is added to a row is kept there**, and nothing else of the answer changes. -/
theorem ofJson_rowExtended (h : RowExtended key value i v v') (hv : v.Ordered) (hr : ofJson v = .ok r) :
    ∃ d row, r.diagrams = some d ∧ d.table[i]? = some row ∧ Members.get? key row.extra = none ∧
      ofJson v' = .ok ⟨some { d with table := d.table.set i (row.keep key value) }⟩ := by
  obtain ⟨ms, ms', h, hms, hbody, hsame⟩ := ofJson_inBody h (fun ms ms' h => h.keeps) hv hr
  obtain ⟨w, w', h, hw, hread, hput⟩ := ofMembers_inDiagrams h hms hbody
  obtain ⟨hnull, hnull'⟩ := h.ne_null
  obtain ⟨d, hd, hdecode⟩ := exists_of_decodeOptional hnull hread
  obtain ⟨row, hrow, hnew, hkept⟩ := Diagrams.decode_rowExtended h hw hdecode
  refine ⟨d, row, hd, hrow, hnew, ?_⟩
  rw [hsame]
  refine hput _ ?_
  rw [decodeOptional_of_ne_null hnull', hkept]
  rfl

/-- **What else a response holds.** An object without data of its own is answered alone as in an envelope,
unless one of the two rejects the request, and what rejects it is an error whatever else it holds. A member
that is added under a key of no field changes no answer, except that a row keeps it among its others, of
which it was none. The values are in order, as every one is that is read. -/
theorem ofJson_tolerant :
    (∀ envelope payload : Members, Members.get? "data" payload = none → ¬Rejecting payload →
      Members.get? "data" envelope = some (.obj payload) → ¬Rejecting envelope →
      ofJson (.obj envelope) = ofJson (.obj payload)) ∧
    (∀ (key : String) (value v v' : Json) (r : Response), v.Ordered → Extended key value v v' →
      ofJson v = .ok r → ofJson v' = .ok r) ∧
    (∀ (key : String) (value v v' : Json) (i : Nat) (r : Response), v.Ordered →
      RowExtended key value i v v' → ofJson v = .ok r →
      ∃ d row, r.diagrams = some d ∧ d.table[i]? = some row ∧ Members.get? key row.extra = none ∧
        ofJson v' = .ok ⟨some { d with
          table := d.table.set i { row with extra := Members.insert key value row.extra } }⟩) ∧
    ∀ ms : Members, Rejecting ms → ∃ message, ofJson (.obj ms) = .error (.api message) := by
  refine ⟨fun envelope payload hpayload haccepted hdata henvelope => ?_, fun key value v v' r hv h hr => ?_,
    fun key value v v' i r hv h hr => ?_, fun ms hms => ?_⟩
  · rw [ofJson_of_data henvelope hdata, ofJson_of_bare haccepted (.inl hpayload)]
  · exact ofJson_extended h hv hr
  · exact ofJson_rowExtended h hv hr
  · exact ofJson_of_rejecting hms

/-- A member that is added to a node below the root of a tree in an envelope, and one to a row beside it. -/
theorem ofJson_tolerant_enveloped :
    let tree (child : Members) : Json := .obj [("children", .arr [.obj child])]
    let diagrams (child row : Members) : Json :=
      .obj [("flame_data", tree child), ("table_data", .arr [.obj row])]
    let document (child row : Members) : Json :=
      .obj [("data", .obj [("diagrams", diagrams child row)]), ("result", .bool true)]
    let v := document [("id", .int 3)] [("id", .int 7)]
    let v₁ := document [("id", .int 3), ("line", .int 9)] [("id", .int 7)]
    let v₂ := document [("id", .int 3)] [("id", .int 7), ("line", .int 9)]
    let r (row : TableRow) : Response := ⟨some { table := [row], flame := some (.mk 0 "" 0 [.mk 3 "" 0 []]) }⟩
    v.Ordered ∧ ofJson v = .ok (r { id := 7 }) ∧
      (Extended "line" (.int 9) v v₁ ∧ ofJson v₁ = .ok (r { id := 7 })) ∧
      RowExtended "line" (.int 9) 0 v v₂ ∧ ofJson v₂ = .ok (r { id := 7, extra := [("line", .int 9)] }) := by
  intro tree diagrams document v v₁ v₂ r
  have hv : v.Ordered := by
    have hmember : ∀ key {w : Json}, w.Ordered → Ordered (.obj [(key, w)]) := fun key w hw =>
      .obj (List.pairwise_singleton _ _) (List.forall_mem_singleton.mpr hw)
    have hitem : ∀ {w : Json}, w.Ordered → Ordered (.arr [w]) := fun hw =>
      .arr (List.forall_mem_singleton.mpr hw)
    have hdiagrams : (diagrams [("id", .int 3)] [("id", .int 7)]).Ordered := by
      refine .obj (by decide) (List.forall_mem_cons.mpr ⟨?_, List.forall_mem_singleton.mpr ?_⟩)
      · exact hmember "children" (hitem (hmember "id" (.int 3)))
      · exact hitem (hmember "id" (.int 7))
    refine .obj (by decide) (List.forall_mem_cons.mpr ⟨?_, List.forall_mem_singleton.mpr (.bool true)⟩)
    exact hmember "diagrams" hdiagrams
  have hr : ofJson v = .ok (r { id := 7 }) := rfl
  have hchild : FlameNode.Extended "line" (.int 9) (tree [("id", .int 3)])
      (tree [("id", .int 3), ("line", .int 9)]) :=
    .child [.obj [("id", .int 3)]] 0 rfl (.here (.intro (by decide) rfl)) (.member rfl)
  have h₁ : Extended "line" (.int 9) v v₁ :=
    .diagrams (.data rfl (.intro rfl (.flame hchild (.member rfl))))
  have h₂ : RowExtended "line" (.int 9) 0 v v₂ :=
    .data rfl (.intro rfl (.intro [.obj [("id", .int 7)]] rfl (.intro (by decide) rfl) (.member rfl)))
  obtain ⟨-, hextended, hrow, -⟩ := ofJson_tolerant
  obtain ⟨d, row, hd, hget, hnew, hkept⟩ := hrow "line" (.int 9) v v₂ 0 _ hv h₂ hr
  obtain rfl := Option.some.inj hd
  obtain rfl := Option.some.inj hget
  exact ⟨hv, hr, ⟨h₁, hextended "line" (.int 9) v v₁ _ hv h₁ hr⟩, h₂, hkept⟩

end Response

end ProfileBrowser
