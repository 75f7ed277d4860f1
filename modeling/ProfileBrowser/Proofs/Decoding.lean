import ProfileBrowser.Profile.Diagrams.Decode
import ProfileBrowser.Proofs.Members
/-!
# Decoding what was written

Diagrams are decoded from the value that they are written as, with the members of its objects in order.
A decoder takes the members of a record one after the other, and a member of its own changes one field
alone, so it does not matter where among the others it stands (`foldlM_insert`). The other members of a
row are kept: they come back as they were if their keys are none of the row's own and if they are in
order at every depth (`TableRow.Kept`).
-/

namespace ProfileBrowser

open Json

/-! ### Records -/

namespace Json

variable {ε σ : Type} {take : σ → String × Json → Except ε σ} {key : String} {v : Json}

/-- **A member that changes a field of its own** may be taken before all others. -/
theorem foldlM_insert (set : σ → σ) (hset : ∀ r, take r (key, v) = .ok (set r))
    (hswap : ∀ r m, m.1 ≠ key → take (set r) m = (take r m).map set) {ms : Members}
    (hnew : Members.get? key ms = none) (r : σ) :
    (Members.insert key v ms).foldlM take r = ms.foldlM take (set r) := by
  fun_induction Members.insert key v ms generalizing r with
  | case1 => rw [List.foldlM_cons, hset]; rfl
  | case2 => rw [List.foldlM_cons, hset]; rfl
  | case3 => simp [Members.get?] at hnew
  | case4 k w rest hlt hne ih =>
    rw [Members.get?_cons, if_neg hne] at hnew
    rw [List.foldlM_cons, List.foldlM_cons, hswap r _ (Ne.symm hne)]
    cases take r (k, w) with
    | error e => rfl
    | ok r => exact ih hnew r

/-- **A member of which there is no other** may be taken first out of the members in order. -/
theorem foldlM_sortedMembers (set : σ → σ) (hset : ∀ r, take r (key, sorted v) = .ok (set r))
    (hswap : ∀ r m, m.1 ≠ key → take (set r) m = (take r m).map set) {rest : List (String × Json)}
    (hnew : ∀ m ∈ rest, m.1 ≠ key) (r : σ) :
    (sortedMembers ((key, v) :: rest)).foldlM take r = (sortedMembers rest).foldlM take (set r) := by
  have hnone := get?_sortedMembers_eq_none hnew
  have hput : sortedMembers ((key, v) :: rest) = Members.insert key (sorted v) (sortedMembers rest) := by
    rw [sortedMembers_cons, hnone]
    rfl
  rw [hput, foldlM_insert set hset hswap hnone r]

theorem decodeWord_word (n : UInt64) : decodeWord (.word n) = .ok n := by
  have hword : 0 ≤ (n.toNat : Int) ∧ (n.toNat : Int) < Word.count :=
    ⟨Int.natCast_nonneg _, Int.ofNat_lt.mpr n.toNat_lt⟩
  rw [word, decodeWord, if_pos hword]
  exact congrArg Except.ok UInt64.ofNat_toNat

end Json

/-! ### Table rows -/

namespace TableRow

/-- The keys of a row's own members. -/
def names : List String := ["id", "name", "self", "total"]

/-- A row as it is decoded: its other members are in order at every depth, and none of them has a key of
the row's own. -/
structure Kept (row : TableRow) : Prop where
  ascending : Members.Ascending row.extra
  ordered : ∀ m ∈ row.extra, m.2.Ordered
  others : ∀ m ∈ row.extra, m.1 ∉ names

theorem takeMember_of_other {m : String × Json} (h : m.1 ∉ names) (row : TableRow) :
    row.takeMember m = .ok { row with extra := Members.insert m.1 m.2 row.extra } := by
  simp only [names, List.mem_cons, List.not_mem_nil, or_false, not_or] at h
  obtain ⟨hid, hname, hself, htotal⟩ := h
  rw [takeMember, if_neg hid, if_neg hname, if_neg hself, if_neg htotal]

/-- One of a row's own members. -/
inductive Own where
  | id (id : UInt64)
  | name (name : String)
  | self (self : UInt64)
  | total (total : UInt64)

namespace Own

def key : Own → String
  | .id _ => "id"
  | .name _ => "name"
  | .self _ => "self"
  | .total _ => "total"

/-- What it is written as. -/
def written : Own → Json
  | .name text => .str text
  | .id n | .self n | .total n => .word n

/-- The row with it. -/
def put : Own → TableRow → TableRow
  | .id n, row => { row with id := n }
  | .name text, row => { row with name := text }
  | .self n, row => { row with self := n }
  | .total n, row => { row with total := n }

theorem takeMember_written (own : Own) (row : TableRow) :
    row.takeMember (own.key, own.written) = .ok (own.put row) := by
  cases own <;>
    simp only [key, written, takeMember, String.reduceEq, ↓reduceIte, decodeWord_word, decodeString] <;>
    rfl

/-- It can be put in before another member is taken or after that. -/
theorem takeMember_put (own : Own) {m : String × Json} (hm : m.1 ≠ own.key) (row : TableRow) :
    (own.put row).takeMember m = (row.takeMember m).map own.put := by
  unfold takeMember
  split_ifs with hid hname hself htotal
  · cases decodeWord m.2 with
    | error e => rfl
    | ok n =>
      cases own with
      | id => exact absurd hid hm
      | _ => rfl
  · cases decodeString m.2 with
    | error e => rfl
    | ok text =>
      cases own with
      | name => exact absurd hname hm
      | _ => rfl
  · cases decodeWord m.2 with
    | error e => rfl
    | ok n =>
      cases own with
      | self => exact absurd hself hm
      | _ => rfl
  · cases decodeWord m.2 with
    | error e => rfl
    | ok n =>
      cases own with
      | total => exact absurd htotal hm
      | _ => rfl
  · cases own <;> rfl

/-- **Where a row's own member stands among the others does not matter.** -/
theorem foldlM_sorted (own : Own) {rest : List (String × Json)} (row : TableRow)
    (hnew : ∀ m ∈ rest, m.1 ≠ own.key) :
    (sortedMembers ((own.key, own.written) :: rest)).foldlM takeMember row =
      (sortedMembers rest).foldlM takeMember (own.put row) := by
  have hscalar : sorted own.written = own.written := by cases own <;> rfl
  refine foldlM_sortedMembers own.put (fun r => ?_) (fun r m hm => own.takeMember_put hm r) hnew row
  rw [hscalar]
  exact own.takeMember_written r

end Own

/-- Other members in ascending order are kept as they are. -/
theorem foldlM_others {ms : Members} (hothers : ∀ m ∈ ms, m.1 ∉ names) (row : TableRow)
    (hkeys : Members.Ascending (row.extra ++ ms)) :
    ms.foldlM takeMember row = .ok { row with extra := row.extra ++ ms } := by
  induction ms generalizing row with
  | nil => rw [List.append_nil]; rfl
  | cons m rest ih =>
    have hlast : Members.insert m.1 m.2 row.extra = row.extra ++ [m] :=
      Members.insert_of_gt fun n hn => (List.pairwise_append.mp hkeys).2.2 n hn m List.mem_cons_self
    rw [List.foldlM_cons, takeMember_of_other (hothers m List.mem_cons_self), hlast]
    refine (ih (fun n hn => hothers n (List.mem_cons_of_mem _ hn)) _ ?_).trans ?_
    · rwa [List.append_assoc, List.singleton_append]
    · rw [List.append_assoc, List.singleton_append]

/-- **A row is decoded from what it is written as.** -/
theorem Kept.decode_toJson {row : TableRow} (h : row.Kept) : decode (sorted row.toJson) = .ok row := by
  obtain ⟨id, name, self, total, extra⟩ := row
  have hextra : sortedMembers extra = extra :=
    sortedMembers_of_ascending h.ascending fun m hm => (h.ordered m hm).sorted_eq
  have hother : ∀ key ∈ names, ∀ m ∈ extra, m.1 ≠ key := fun key hkey m hm heq =>
    h.others m hm (heq ▸ hkey)
  have hid : ∀ m ∈ ("name", .str name) :: ("self", .word self) :: ("total", .word total) :: extra,
      m.1 ≠ "id" := by
    simpa using hother "id" (by decide)
  have hname : ∀ m ∈ ("self", .word self) :: ("total", .word total) :: extra, m.1 ≠ "name" := by
    simpa using hother "name" (by decide)
  have hself : ∀ m ∈ ("total", .word total) :: extra, m.1 ≠ "self" := by
    simpa using hother "self" (by decide)
  calc decode (sorted (toJson ⟨id, name, self, total, extra⟩))
      = (sortedMembers (("id", .word id) :: ("name", .str name) :: ("self", .word self) ::
          ("total", .word total) :: extra)).foldlM takeMember {} := by rw [toJson, sorted, decode]; rfl
    _ = (sortedMembers (("name", .str name) :: ("self", .word self) :: ("total", .word total) ::
          extra)).foldlM takeMember { id } := (Own.id id).foldlM_sorted _ hid
    _ = (sortedMembers (("self", .word self) :: ("total", .word total) :: extra)).foldlM takeMember
          { id, name } := (Own.name name).foldlM_sorted _ hname
    _ = (sortedMembers (("total", .word total) :: extra)).foldlM takeMember { id, name, self } :=
        (Own.self self).foldlM_sorted _ hself
    _ = (sortedMembers extra).foldlM takeMember { id, name, self, total } :=
        (Own.total total).foldlM_sorted _ (hother "total" (by decide))
    _ = .ok ⟨id, name, self, total, extra⟩ := by
        rw [hextra]
        exact foldlM_others h.others _ h.ascending

end TableRow

/-! ### Flame trees -/

namespace FlameNode

/-- The members of a node in order. -/
theorem sorted_node (id value : UInt64) (name : String) (children : List FlameNode) :
    sorted (mk id name value children).toJson =
      .obj [("children", .arr (sortedItems (toJsons children))), ("id", .word id),
        ("name", .str name), ("value", .word value)] := by
  rw [toJson]
  rfl

mutual
/-- **A tree is decoded from what it is written as**, however deep it is. -/
theorem decode_toJson : ∀ n : FlameNode, decode (sorted n.toJson) = .ok n
  | mk id name value children => by
    have hchildren : decodeChildren (.arr (sortedItems (toJsons children))) = .ok children := by
      rw [decodeChildren, decodeNodes_toJsons children]
    rw [sorted_node, decode]
    simp only [decodeMembers, takeScalar, hchildren, decodeWord_word, decodeString, String.reduceEq,
      ↓reduceIte]
    rfl

/-- So is a list of trees. -/
theorem decodeNodes_toJsons : ∀ ns : List FlameNode, decodeNodes (sortedItems (toJsons ns)) = .ok ns
  | [] => rfl
  | n :: rest => by
    rw [toJsons, sortedItems, decodeNodes, decode_toJson n, decodeNodes_toJsons rest]
    rfl
end

end FlameNode

/-! ### The payload -/

namespace Diagrams

/-- Diagrams as they are decoded: with rows as they are decoded, and with a call graph that is in order at
every depth and not null. -/
structure Kept (d : Diagrams) : Prop where
  rows : ∀ row ∈ d.table, row.Kept
  graph : ∀ v, d.callGraph = some v → v.Ordered ∧ v ≠ .null

theorem decode_table {rows : List TableRow} (h : ∀ row ∈ rows, row.Kept) :
    decodeItems TableRow.decode (sorted (.arr (rows.map TableRow.toJson))) = .ok rows := by
  rw [sorted, decodeItems, sortedItems_eq_map, List.map_map]
  induction rows with
  | nil => rfl
  | cons row rest ih =>
    have hrow := (h row List.mem_cons_self).decode_toJson
    have hrest := ih fun r hr => h r (List.mem_cons_of_mem _ hr)
    rw [List.map_cons, List.mapM_cons, hrest, Function.comp_apply, hrow]
    rfl

theorem decode_flame (flame : Option FlameNode) :
    decodeOptional FlameNode.decode (sorted ((flame.map FlameNode.toJson).getD .null)) = .ok flame := by
  cases flame with
  | none => rfl
  | some n =>
    obtain ⟨id, name, value, children⟩ := n
    have hdecode := FlameNode.decode_toJson (.mk id name value children)
    rw [Option.map_some, Option.getD_some]
    rw [FlameNode.sorted_node] at hdecode ⊢
    rw [decodeOptional, hdecode]
    · rfl
    · exact nofun

theorem decode_graph {graph : Option Json} (h : ∀ v, graph = some v → v.Ordered ∧ v ≠ .null) :
    decodeOptional (fun v => .ok v) (sorted (graph.getD .null)) = .ok graph := by
  cases graph with
  | none => rfl
  | some v =>
    obtain ⟨hordered, hnull⟩ := h v rfl
    rw [Option.getD_some, hordered.sorted_eq, decodeOptional]
    · rfl
    · exact hnull

/-- **Diagrams are decoded from what they are written as.** -/
theorem Kept.decode_toJson {d : Diagrams} (h : d.Kept) : decode (sorted d.toJson) = .ok d := by
  have hmembers : sorted d.toJson = .obj [("call_graph_data", sorted (d.callGraph.getD .null)),
      ("flame_data", sorted ((d.flame.map FlameNode.toJson).getD .null)),
      ("table_data", sorted (.arr (d.table.map TableRow.toJson))), ("unit", .str d.unit)] := by
    rw [toJson]
    rfl
  rw [hmembers, decode]
  simp only [List.foldlM_cons, List.foldlM_nil, takeMember, decode_graph h.graph, decode_flame,
    decode_table h.rows, decodeString, String.reduceEq, ↓reduceIte]
  rfl

end Diagrams

end ProfileBrowser
