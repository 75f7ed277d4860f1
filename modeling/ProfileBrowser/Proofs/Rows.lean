import Mathlib.Data.List.Nodup
import ProfileBrowser.Proofs.Export
/-!
# Rows on their way to a state file

What a row is written as has exactly the members that it was decoded from, with their values, and those of
the row's own that were missing, blank (`TableRow.completes_written`). Its four own members are decoded into
fields and the others into a list, so the argument goes member by member: what is taken is what is written
under its key, and under any other key the row is written as before (`TableRow.get?_takeMember`). A state
file has the members of a row in order, which changes none of them (`TableRow.completes_sorted`), and it has
the rows in the order in which they arrived (`Exchange.exported_rows`).
-/

namespace ProfileBrowser

open Json

namespace Json

/-! ### Distinct keys -/

namespace Members

variable {ms : Members}

theorem Ascending.nodup (h : ms.Ascending) : (ms.map Prod.fst).Nodup :=
  List.pairwise_map.mpr (h.imp ne_of_lt)

/-- Where every key stands once, a member is the value of its key. -/
theorem mem_iff_get? (h : (ms.map Prod.fst).Nodup) {m : String × Json} :
    m ∈ ms ↔ get? m.1 ms = some m.2 := by
  refine ⟨fun hm => ?_, mem_of_get?⟩
  induction ms with
  | nil => cases hm
  | cons n ms ih =>
    obtain ⟨hnew, hrest⟩ := List.nodup_cons.mp h
    rw [get?_cons]
    rcases List.mem_cons.mp hm with rfl | hm
    · rw [if_pos rfl]
    · have hne : m.1 ≠ n.1 := fun heq => hnew (heq ▸ List.mem_map_of_mem hm)
      rw [if_neg hne, ih hrest hm]

end Members

/-- Sorting gives every key the value that it had, with the members of that in order. -/
theorem get?_sortedMembers {ms : Members} (h : (ms.map Prod.fst).Nodup) (key : String) :
    Members.get? key (sortedMembers ms) = (Members.get? key ms).map sorted := by
  induction ms with
  | nil => rfl
  | cons m rest ih =>
    obtain ⟨hnew, hrest⟩ := List.nodup_cons.mp h
    have hnone : Members.get? m.1 (sortedMembers rest) = none :=
      get?_sortedMembers_eq_none fun n hn heq => hnew (heq ▸ List.mem_map_of_mem hn)
    rw [sortedMembers_cons, hnone, Option.isSome_none, if_neg Bool.false_ne_true, Members.get?_insert,
      Members.get?_cons, ih hrest]
    split_ifs <;> rfl

end Json

/-! ### Rows -/

namespace TableRow

/-- The members of a row of which nothing is known. -/
def blank : Members := [("id", .word 0), ("name", .str ""), ("self", .word 0), ("total", .word 0)]

/-- The members that a row is written with. -/
def written (row : TableRow) : Members :=
  [("id", .word row.id), ("name", .str row.name), ("self", .word row.self), ("total", .word row.total)] ++
    row.extra

theorem toJson_eq (row : TableRow) : row.toJson = .obj row.written := rfl

/-- A member of the row's own is written with the value that has been put in. -/
theorem Own.get?_put (own : Own) (row : TableRow) (key : String) :
    Members.get? key (own.put row).written =
      if key = own.key then some own.written else Members.get? key row.written := by
  split_ifs with hkey
  · subst hkey
    cases own <;> rfl
  · cases own <;>
      simp only [Own.key] at hkey <;>
      simp only [Own.put, TableRow.written, List.cons_append, List.nil_append, Members.get?_cons, if_neg hkey]

/-- So is any other member. -/
theorem get?_written_insert (row : TableRow) {k : String} (hk : k ∉ names) (v : Json) (key : String) :
    Members.get? key { row with extra := Members.insert k v row.extra }.written =
      if key = k then some v else Members.get? key row.written := by
  split_ifs with hkey
  · subst hkey
    simp only [names, List.mem_cons, List.not_mem_nil, or_false, not_or] at hk
    obtain ⟨hid, hname, hself, htotal⟩ := hk
    simp only [written, List.cons_append, List.nil_append, Members.get?_cons, Members.get?_insert, if_neg hid,
      if_neg hname, if_neg hself, if_neg htotal, ↓reduceIte]
  · simp only [written, List.cons_append, List.nil_append, Members.get?_cons, Members.get?_insert, if_neg hkey]

/-- **A member that is taken is written with its value**, and the others are written as before. -/
theorem get?_takeMember {row row' : TableRow} {m : String × Json} (h : row.takeMember m = .ok row')
    (key : String) :
    Members.get? key row'.written = if key = m.1 then some m.2 else Members.get? key row.written := by
  rcases takeMember_cases h with ⟨own, rfl, rfl⟩ | ⟨hother, rfl⟩
  · exact own.get?_put row key
  · exact row.get?_written_insert hother m.2 key

/-- So it is with all members of an object. -/
theorem get?_foldlM_takeMember {ms : Members} (hms : ms.Ascending) {row row' : TableRow}
    (h : ms.foldlM takeMember row = .ok row') (key : String) :
    Members.get? key row'.written = (Members.get? key ms).or (Members.get? key row.written) := by
  induction ms generalizing row with
  | nil =>
    cases h
    rfl
  | cons m rest ih =>
    rw [List.foldlM_cons] at h
    obtain ⟨next, htake, hrest⟩ := bind_eq_ok h
    rw [ih (Members.ascending_cons.mp hms).2 hrest, get?_takeMember htake, Members.get?_cons]
    split_ifs with hkey
    · rw [hkey, hms.get?_tail, Option.none_or, Option.some_or]
    · rfl

/-- **Members with what a row lacks of its own**: all that were there, with their values, blank ones for the
keys that were not, and nothing else. -/
structure Completes (ms ns : Members) : Prop where
  distinct : (ns.map Prod.fst).Nodup
  mem_iff : ∀ m, m ∈ ns ↔ m ∈ ms ∨ m ∈ blank ∧ ∀ n ∈ ms, n.1 ≠ m.1

/-- What the values of the keys say of it. -/
theorem completes_of_get? {ms ns : Members} (hms : ms.Ascending) (hns : (ns.map Prod.fst).Nodup)
    (h : ∀ key, Members.get? key ns = (Members.get? key ms).or (Members.get? key blank)) :
    Completes ms ns := by
  refine ⟨hns, fun m => ?_⟩
  have hblank : (blank.map Prod.fst).Nodup := by decide
  rw [Members.mem_iff_get? hns, Members.mem_iff_get? hms.nodup, Members.mem_iff_get? hblank, h,
    Option.or_eq_some_iff, ← Members.get?_eq_none_iff]
  tauto

theorem Kept.nodup_written {row : TableRow} (h : row.Kept) : (row.written.map Prod.fst).Nodup := by
  have hextra : ∀ key ∈ names, key ∉ row.extra.map Prod.fst := by
    intro key hkey hmem
    obtain ⟨m, hm, rfl⟩ := List.mem_map.mp hmem
    exact h.others m hm hkey
  have hnames : names.Nodup := by decide
  rw [written, List.map_append]
  exact List.Nodup.append hnames h.ascending.nodup hextra

/-- **A row is written with the members that it was decoded from**, and with blank ones for what it
lacked. -/
theorem get?_written_of_decode {ms : Members} {row : TableRow} (hms : ms.Ascending)
    (h : decode (.obj ms) = .ok row) (key : String) :
    Members.get? key row.written = (Members.get? key ms).or (Members.get? key blank) :=
  get?_foldlM_takeMember hms h key

theorem completes_written {ms : Members} {row : TableRow} (hms : Ordered (.obj ms))
    (h : decode (.obj ms) = .ok row) : Completes ms row.written :=
  completes_of_get? hms.keys (kept_of_decode hms h).nodup_written (get?_written_of_decode hms.keys h)

/-- The order of the members is all that sorting changes. -/
theorem completes_sorted {ms : Members} {row : TableRow} (hms : Ordered (.obj ms))
    (h : decode (.obj ms) = .ok row) : Completes ms (sortedMembers row.written) := by
  refine completes_of_get? hms.keys (ascending_sortedMembers _).nodup fun key => ?_
  have hvalue := get?_written_of_decode hms.keys h key
  have hordered : ∀ v, Members.get? key row.written = some v → sorted v = v := by
    intro v hv
    rw [hvalue, Option.or_eq_some_iff] at hv
    rcases hv with hv | ⟨-, hv⟩
    · exact (hms.members _ (Members.mem_of_get? hv)).sorted_eq
    · have hblank : ∀ m ∈ blank, sorted m.2 = m.2 := by
        simp only [blank, List.forall_mem_cons]
        exact ⟨rfl, rfl, rfl, rfl, List.forall_mem_nil _⟩
      exact hblank _ (Members.mem_of_get? hv)
  rw [get?_sortedMembers (kept_of_decode hms h).nodup_written, ← hvalue]
  cases hwritten : Members.get? key row.written with
  | none => rfl
  | some v => rw [Option.map_some, hordered v hwritten]

end TableRow

/-! ### State files -/

namespace Controller

/-- **The rows of a state file** are those that the shown ones were decoded from, in their order, each with
its members in order and with blank ones for what it lacked. -/
theorem exists_exported (c : Controller) (source : String) {items : List Json}
    (hitems : Ordered (.arr items)) (h : decodeItems TableRow.decode (.arr items) = .ok c.view.table) :
    ∃ members exported, c.stateJson source = .obj members ∧
      Members.get? "table_data" members = some (.arr exported) ∧
      List.Forall₂ (fun v w => ∃ ms ns, v = .obj ms ∧ w = .obj ns ∧ ns.Ascending ∧
        TableRow.Completes ms ns) items exported := by
  refine ⟨_, c.view.table.map fun row => sorted row.toJson, c.stateJson_eq source, ?_, ?_⟩
  · rw [sorted, sortedItems_eq_map, List.map_map]
    rfl
  · rw [List.forall₂_map_right_iff]
    have hrows := (List.forall₂_and_left _ _).mpr ⟨hitems.items, forall₂_of_mapM h⟩
    refine hrows.imp fun v row hrow => ?_
    obtain ⟨hv, hdecode⟩ := hrow
    cases v with
    | obj ms =>
      exact ⟨ms, _, rfl, rfl, ascending_sortedMembers _, TableRow.completes_sorted hv hdecode⟩
    | _ => cases hdecode

end Controller

namespace Exchange

/-- **No member of a row is lost or changed on its way to a state file.** What a decoded row is written as
has the members of the object that it was decoded from, and blank ones for what that lacked of the row's
own. So have the rows of a state file, in the order of the array that the shown rows were decoded from. And
the rows that are shown are those of an answer, whatever has happened. The values are in order, as every one
is that is read. -/
theorem exported_rows :
    (∀ (ms : Members) (row : TableRow), Ordered (.obj ms) → TableRow.decode (.obj ms) = .ok row →
      ∃ ns, row.toJson = .obj ns ∧ TableRow.Completes ms ns) ∧
    (∀ (c : Controller) (source : String) (items : List Json), Ordered (.arr items) →
      decodeItems TableRow.decode (.arr items) = .ok c.view.table →
      ∃ members exported, c.stateJson source = .obj members ∧
        Members.get? "table_data" members = some (.arr exported) ∧
        List.Forall₂ (fun v w => ∃ ms ns, v = .obj ms ∧ w = .obj ns ∧ ns.Ascending ∧
          TableRow.Completes ms ns) items exported) ∧
    ∀ (context : Context) (quiet : Nat) (mode : Mode) (events : List Event),
      let x := (Exchange.new context quiet mode).run events
      x.controller.view.table = [] ∨
        ∃ number d, .answer number (.data d) ∈ events ∧ x.controller.view.table = d.table := by
  refine ⟨fun ms row hms h => ⟨_, row.toJson_eq, TableRow.completes_written hms h⟩,
    fun c source items hitems h => c.exists_exported source hitems h,
    fun context quiet mode events => ?_⟩
  have h : Course _ (history (.new context quiet mode) events ++ [.triggered 0]) :=
    course_run context quiet mode events
  refine h.table_cases.imp_right ?_
  rintro ⟨number, completion, d, happlied, houtcome, htable⟩
  have hanswer := answer_of_applied_run happlied
  rw [houtcome] at hanswer
  exact ⟨number, d, hanswer, htable⟩

/-- A row with a nested member and without a total of its own, and one with nothing: how the first is written,
and the state file of a run in which both are shown. -/
theorem exported_rows_nested :
    let at0 : Json := .obj [("at", .arr [.float (.zero true), .null])]
    let ms : Members := [("id", .int 7), ("lib", at0), ("name", .str "f"), ("self", .int 18446744073709551615)]
    let items : List Json := [.obj ms, .obj []]
    let row : TableRow := { id := 7, name := "f", self := 18446744073709551615, extra := [("lib", at0)] }
    let events : List Event := [.advance 300, .poll, .answer 0 (.data { table := [row, {}] }), .poll]
    let c := ((Exchange.new default 300 .combine).run events).controller
    (Ordered (.obj ms) ∧ TableRow.decode (.obj ms) = .ok row ∧ Ordered (.arr items) ∧
      decodeItems TableRow.decode (.arr items) = .ok c.view.table) ∧
    (∃ ns, row.toJson = .obj ns ∧ TableRow.Completes ms ns) ∧
    ∃ members exported, c.stateJson "file" = .obj members ∧
      Members.get? "table_data" members = some (.arr exported) ∧
      List.Forall₂ (fun v w => ∃ ms ns, v = .obj ms ∧ w = .obj ns ∧ ns.Ascending ∧
        TableRow.Completes ms ns) items exported := by
  intro at0 ms items row events c
  have hat : at0.Ordered := by
    refine .obj (by decide) (List.forall_mem_singleton.mpr (.arr ?_))
    exact List.forall_mem_cons.mpr ⟨.float _, List.forall_mem_singleton.mpr .null⟩
  have hms : Ordered (.obj ms) := by
    refine .obj (by decide) ?_
    simp only [ms, List.forall_mem_cons]
    exact ⟨.int _, hat, .str _, .int _, List.forall_mem_nil _⟩
  have hempty : Ordered (.obj []) := .obj Members.ascending_nil nofun
  have hitems : Ordered (.arr items) :=
    .arr (List.forall_mem_cons.mpr ⟨hms, List.forall_mem_singleton.mpr hempty⟩)
  have hrow : TableRow.decode (.obj ms) = .ok row := rfl
  have hrows : decodeItems TableRow.decode (.arr items) = .ok c.view.table := rfl
  obtain ⟨hwritten, hexported, -⟩ := exported_rows
  exact ⟨⟨hms, hrow, hitems, hrows⟩, hwritten ms row hms hrow, hexported c "file" items hitems hrows⟩

end Exchange

end ProfileBrowser
