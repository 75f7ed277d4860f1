import ProfileBrowser.Proofs.Display
import ProfileBrowser.Proofs.Received
import ProfileBrowser.Proofs.Wire
/-!
# State files

A state file can be loaded back: what it holds is decoded as diagrams, with the unit, the rows, the flame
graph and the topology of the state that was written (`Exchange.stateJson_reloads`). Its members beside
those of diagrams are passed over. That holds of every state that is reached with answers from the wire:
the rows of the state are those of an answer (`Exchange.Course.exists_answer_of_row`), so none of them
keeps a member with a key of its own among the others.
-/

namespace ProfileBrowser

open Json

/-- Diagrams from the wire: those of a document, or parts of them. -/
inductive Diagrams.Received : Diagrams → Prop where
  | read {bytes : List UInt8} {d : Diagrams} (h : Response.ofBytes bytes = .ok ⟨some d⟩) : Received d
  | retain {d : Diagrams} (h : Received d) (kinds : List DiagramKind) : Received (d.retain kinds)

theorem Diagrams.Received.kept {d : Diagrams} (h : d.Received) : d.Kept := by
  induction h with
  | read h => exact Response.kept_of_ofBytes h
  | retain _ kinds ih => exact ih.retain kinds

namespace Controller

/-- The diagrams that a state file holds: the call graph as the text that is shown. -/
def exported (c : Controller) : Diagrams :=
  { unit := c.view.unit, table := c.view.table, flame := c.view.flame
    callGraph := some (.str c.view.topology) }

/-- The members of a state file in order. -/
theorem stateJson_eq (c : Controller) (source : String) :
    c.stateJson source = .obj [("call_graph_data", .str c.view.topology), ("empty", .bool c.view.empty),
      ("end", .word (TimeRange.micros c.context.range.stop)),
      ("flame_data", sorted ((c.view.flame.map FlameNode.toJson).getD .null)),
      ("params", sorted c.context.params.toJson), ("source", .str source),
      ("start", .word (TimeRange.micros c.context.range.start)),
      ("table_data", sorted (.arr (c.view.table.map TableRow.toJson))), ("unit", .str c.view.unit)] := by
  simp only [stateJson, sorted, sortedMembers, word, Members.insert, Members.get?, String.reduceLT,
    String.reduceEq, Option.isSome_none, Bool.false_eq_true, ↓reduceIte]

/-- **A state file is decoded as the diagrams of the state.** -/
theorem decode_stateJson (c : Controller) (source : String) (h : ∀ row ∈ c.view.table, row.Kept) :
    Diagrams.decode (c.stateJson source) = .ok c.exported := by
  have hgraph : decodeOptional (fun v => .ok v) (.str c.view.topology) =
      .ok (some (.str c.view.topology)) := rfl
  rw [stateJson_eq, Diagrams.decode]
  simp only [List.foldlM_cons, List.foldlM_nil, Diagrams.takeMember, hgraph, Diagrams.decode_flame,
    Diagrams.decode_table h, decodeString, String.reduceEq, ↓reduceIte]
  rfl

end Controller

namespace Exchange

variable {x : Exchange} {past : List Happening}

theorem Happening.rows?_eq_some {a : Happening} {rows : List TableRow} (h : a.rows? = some rows) :
    ∃ number completion d, a = .applied number completion ∧ completion.outcome = .data d ∧
      d.table = rows := by
  cases a with
  | triggered | replaced | issued => cases h
  | applied number completion =>
    obtain ⟨purpose, outcome⟩ := completion
    have hdata : outcome.data?.map Diagrams.table = some rows := by
      cases purpose with
      | diagrams | sorting => exact h
      | topology generation => cases h
    cases outcome with
    | data d => exact ⟨number, _, d, rfl, rfl, Option.some.inj hdata⟩
    | empty | failed => cases hdata

/-- The rows that are shown are those of an answer, unless there are none. -/
theorem Course.table_cases (h : Course x past) :
    x.controller.view.table = [] ∨ ∃ number completion d, .applied number completion ∈ past ∧
      completion.outcome = .data d ∧ x.controller.view.table = d.table := by
  rw [h.displayed.table]
  cases hrows : past.findSome? Happening.rows? with
  | none => exact .inl rfl
  | some rows =>
    obtain ⟨a, ha, hsome⟩ := List.exists_of_findSome?_eq_some hrows
    obtain ⟨number, completion, d, rfl, houtcome, rfl⟩ := Happening.rows?_eq_some hsome
    exact .inr ⟨number, completion, d, ha, houtcome, rfl⟩

/-- Every row that is shown is one of an answer. -/
theorem Course.exists_answer_of_row (h : Course x past) {row : TableRow}
    (hrow : row ∈ x.controller.view.table) :
    ∃ number completion d, .applied number completion ∈ past ∧ completion.outcome = .data d ∧
      row ∈ d.table := by
  rcases h.table_cases with hnone | ⟨number, completion, d, happlied, houtcome, htable⟩
  · rw [hnone] at hrow
    cases hrow
  · exact ⟨number, completion, d, happlied, houtcome, htable ▸ hrow⟩

/-- **A state file can be loaded back.** In every state that is reached with answers from the wire, what a
state file holds is decoded as diagrams with the unit, the rows, the flame graph and the topology of the
state, and a response with it is an answer with these diagrams. -/
theorem stateJson_reloads (context : Context) (quiet : Nat) (mode : Mode) (events : List Event)
    (source : String) :
    let x := (Exchange.new context quiet mode).run events
    let c := x.controller
    (∀ number d, .answer number (.data d) ∈ events → d.Received) →
      ∃ d, Diagrams.decode (c.stateJson source) = .ok d ∧
        Response.ofJson (.obj [("diagrams", c.stateJson source)]) = .ok ⟨some d⟩ ∧
        d.unit = c.view.unit ∧ d.table = c.view.table ∧ d.flame = c.view.flame ∧
        d.topology = c.view.topology := by
  intro x c hwire
  have h : Course x (history (.new context quiet mode) events ++ [.triggered 0]) :=
    course_run context quiet mode events
  have hrows : ∀ row ∈ c.view.table, row.Kept := by
    intro row hrow
    obtain ⟨number, completion, d, happlied, houtcome, hmem⟩ := h.exists_answer_of_row hrow
    have hanswer := answer_of_applied_run happlied
    rw [houtcome] at hanswer
    exact (hwire number d hanswer).kept.rows row hmem
  have hdecode := c.decode_stateJson source hrows
  refine ⟨c.exported, hdecode, Response.ofJson_diagrams hdecode fun hnull => ?_, rfl, rfl, rfl, rfl⟩
  rw [c.stateJson_eq] at hnull
  cases hnull

/-- A row with a member that the viewer does not know is read, shown and written. -/
theorem stateJson_reloads_extra :
    -- {"diagrams":{"unit":"ms","table_data":[{"name":"f","lib":"x"}]}}
    let bytes : List UInt8 := [
      123, 34, 100, 105, 97, 103, 114, 97, 109, 115, 34, 58, 123, 34, 117, 110, 105, 116, 34, 58,
      34, 109, 115, 34, 44, 34, 116, 97, 98, 108, 101, 95, 100, 97, 116, 97, 34, 58, 91, 123, 34,
      110, 97, 109, 101, 34, 58, 34, 102, 34, 44, 34, 108, 105, 98, 34, 58, 34, 120, 34, 125, 93,
      125, 125]
    let d : Diagrams := { unit := "ms", table := [{ name := "f", extra := [("lib", .str "x")] }] }
    let events : List Event := [.advance 300, .poll, .answer 0 (.data d), .poll]
    let c := ((Exchange.new default 300 .combine).run events).controller
    (Response.ofBytes bytes = .ok ⟨some d⟩ ∧
        ∀ number d, .answer number (.data d) ∈ events → d.Received) ∧
      ∃ d, Diagrams.decode (c.stateJson "file") = .ok d ∧
        Response.ofJson (.obj [("diagrams", c.stateJson "file")]) = .ok ⟨some d⟩ ∧
        d.unit = c.view.unit ∧ d.table = c.view.table ∧ d.flame = c.view.flame ∧
        d.topology = c.view.topology := by
  intro bytes d events
  have hread : Response.ofBytes bytes = .ok ⟨some d⟩ := rfl
  have hwire : ∀ number d, .answer number (.data d) ∈ events → d.Received := by
    intro number e hmem
    obtain ⟨-, rfl⟩ : number = 0 ∧ e = d := by simpa [events] using hmem
    exact .read hread
  exact ⟨⟨hread, hwire⟩, stateJson_reloads default 300 .combine events "file" hwire⟩

end Exchange

end ProfileBrowser
