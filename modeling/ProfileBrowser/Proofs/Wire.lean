import ProfileBrowser.Proofs.Decoding
import ProfileBrowser.Proofs.ReadBack
import ProfileBrowser.Query.Response
/-!
# Responses on the wire

A response that carries diagrams without floats comes back from the bytes of its compact text as it was
(`Response.ofBytes_compact`): reading gives the written value with its members in order (`read_compact`),
and decoding does not depend on where a member stands (`Diagrams.Kept.decode_toJson`).

What is asked of the diagrams (`Diagrams.Kept`, `Diagrams.Exact`) is what their types hold in the first
place: maps of members are kept in order, and an integer fits into 64 bits. Beyond that, no other member
of a row has a key of the row's own, a call graph is not null, and nothing is a float. Flame trees are
free.
-/

namespace ProfileBrowser

open Json

/-- Nothing in the diagrams is a float. -/
structure Diagrams.Exact (d : Diagrams) : Prop where
  rows : ∀ row ∈ d.table, ∀ m ∈ row.extra, m.2.Exact
  graph : ∀ v, d.callGraph = some v → v.Exact

/-! ### What is written -/

theorem TableRow.exact_toJson {row : TableRow} (h : ∀ m ∈ row.extra, m.2.Exact) : row.toJson.Exact := by
  refine .obj fun m hm => ?_
  simp only [List.cons_append, List.nil_append, List.mem_cons] at hm
  rcases hm with rfl | rfl | rfl | rfl | hm
  · exact exact_word _
  · exact .str _
  · exact exact_word _
  · exact exact_word _
  · exact h m hm

namespace FlameNode

mutual
theorem exact_toJson : ∀ n : FlameNode, n.toJson.Exact
  | mk id name value children => by
    refine .obj fun m hm => ?_
    simp only [List.mem_cons, List.not_mem_nil, or_false] at hm
    rcases hm with rfl | rfl | rfl | rfl
    · exact exact_word _
    · exact .str _
    · exact exact_word _
    · exact .arr (exact_toJsons children)

theorem exact_toJsons : ∀ ns : List FlameNode, ∀ v ∈ toJsons ns, v.Exact
  | [], _, hv => by cases hv
  | n :: rest, v, hv => by
    rcases List.mem_cons.mp hv with rfl | hv
    · exact exact_toJson n
    · exact exact_toJsons rest v hv
end

end FlameNode

theorem Diagrams.Exact.toJson {d : Diagrams} (h : d.Exact) : d.toJson.Exact := by
  refine .obj fun m hm => ?_
  simp only [List.mem_cons, List.not_mem_nil, or_false] at hm
  rcases hm with rfl | rfl | rfl | rfl
  · exact .str _
  · refine .arr fun v hv => ?_
    obtain ⟨row, hrow, rfl⟩ := List.mem_map.mp hv
    exact TableRow.exact_toJson (h.rows row hrow)
  · cases d.flame with
    | none => exact .null
    | some n => exact n.exact_toJson
  · cases hgraph : d.callGraph with
    | none => exact .null
    | some v => exact h.graph v hgraph

/-! ### Responses -/

namespace Response

/-- An object that holds diagrams and nothing else is the answer with them. -/
theorem ofJson_diagrams {v : Json} {d : Diagrams} (h : Diagrams.decode v = .ok d) (hv : v ≠ .null) :
    ofJson (.obj [("diagrams", v)]) = .ok ⟨some d⟩ := by
  have htake : takeMember {} ("diagrams", v) = .ok ⟨some d⟩ := by
    rw [takeMember, if_pos rfl, decodeOptional, h]
    · rfl
    · exact hv
  have hmembers : ofMembers [("diagrams", v)] = .ok ⟨some d⟩ := by
    rw [ofMembers, List.foldlM_cons, htake]
    rfl
  exact hmembers

/-- **Diagrams survive the wire**: the bytes of the compact text of a response are read as the same
response. -/
theorem ofBytes_compact {d : Diagrams} (h : d.Kept) (hexact : d.Exact) :
    ofBytes (Text.utf8 (toJson ⟨some d⟩).compact) = .ok ⟨some d⟩ := by
  have hwritten : (toJson ⟨some d⟩).Exact := by
    refine .obj fun m hm => ?_
    obtain rfl := List.mem_singleton.mp hm
    exact hexact.toJson
  have hsorted : sorted (toJson ⟨some d⟩) = .obj [("diagrams", sorted d.toJson)] := rfl
  rw [ofBytes, read_compact hwritten, hsorted]
  refine ofJson_diagrams h.decode_toJson fun hnull => ?_
  rw [Diagrams.toJson] at hnull
  cases hnull

/-- A row with a quote, a control and a letter beyond ASCII in its name and with a nested member beside
its own, a tree of two nodes, and a structured call graph. -/
theorem ofBytes_compact_nested :
    let row : TableRow :=
      { id := 7, name := "\"\u0001\u00e9", self := 18446744073709551615, total := 0
        extra := [("lines", .arr [.int (-3), .obj [("at", .null)]]), ("unit", .str "\\")] }
    let d : Diagrams :=
      { unit := "samples", table := [row], flame := some (.mk 1 "root" 5 [.mk 2 "leaf\n" 5 []])
        callGraph := some (.obj [("edges", .arr []), ("root", .bool true)]) }
    (d.Kept ∧ d.Exact) ∧ ofBytes (Text.utf8 (toJson ⟨some d⟩).compact) = .ok ⟨some d⟩ := by
  intro row d
  have hkept : d.Kept := by
    refine ⟨List.forall_mem_singleton.mpr ⟨by decide, ?_, by decide⟩, ?_⟩
    · have hat : Ordered (.obj [("at", .null)]) := .obj (by decide) (List.forall_mem_singleton.mpr .null)
      have hlines : Ordered (.arr [.int (-3), .obj [("at", .null)]]) :=
        .arr (List.forall_mem_cons.mpr ⟨.int _, List.forall_mem_singleton.mpr hat⟩)
      exact List.forall_mem_cons.mpr ⟨hlines, List.forall_mem_singleton.mpr (.str _)⟩
    · rintro v ⟨⟩
      refine ⟨.obj (by decide) (List.forall_mem_cons.mpr ⟨.arr nofun, ?_⟩), nofun⟩
      exact List.forall_mem_singleton.mpr (.bool _)
  have hexact : d.Exact := by
    refine ⟨List.forall_mem_singleton.mpr ?_, ?_⟩
    · have hat : Json.Exact (.obj [("at", .null)]) := .obj (List.forall_mem_singleton.mpr .null)
      have hlines : Json.Exact (.arr [.int (-3), .obj [("at", .null)]]) :=
        .arr (List.forall_mem_cons.mpr ⟨.int (by decide), List.forall_mem_singleton.mpr hat⟩)
      exact List.forall_mem_cons.mpr ⟨hlines, List.forall_mem_singleton.mpr (.str _)⟩
    · rintro v ⟨⟩
      exact .obj (List.forall_mem_cons.mpr ⟨.arr nofun, List.forall_mem_singleton.mpr (.bool _)⟩)
  exact ⟨⟨hkept, hexact⟩, ofBytes_compact hkept hexact⟩

end Response

end ProfileBrowser
