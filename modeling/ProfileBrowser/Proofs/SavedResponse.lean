import ProfileBrowser.Proofs.Intakes
import ProfileBrowser.Proofs.Rest
import ProfileBrowser.Proofs.Starvation
/-!
# A saved response

A saved file answers every request with the same diagrams, cut down to what the request asked for. A
completion writes no part that its request did not ask for, so however the answers overtake each
other, what they leave is the file's: once everything has come to rest, the display is that of the
file, whatever the user did (`saved_response_at_rest`).

The call graph needs more than that, as it is emptied with every change of the context. It is that of
the last completion for the context (`Course.graph_shown`), and in its mode there is one.
-/

namespace ProfileBrowser

/-! ### What is asked for -/

/-- The kinds of diagrams that are asked for with a purpose. -/
def Purpose.kinds : Purpose → List DiagramKind
  | .diagrams => [.table, .flamegraph]
  | .sorting => [.table]
  | .topology _ => [.callgraph]

/-- The answer of a file that holds diagrams. -/
theorem SavedFile.answer_of_diagrams {bytes : List UInt8} {d : Diagrams}
    (hread : Response.ofBytes bytes = .ok ⟨some d⟩) (request : Request) :
    Outcome.ofResult (SavedFile.answer (.ok bytes) request) = .data (d.retain request.kinds) := by
  simp only [SavedFile.answer, hread]
  rfl

namespace Exchange

variable {x : Exchange} {past : List Happening}

/-- A request asks for what its purpose needs. -/
theorem Course.kinds_of_issued (h : Course x past) {number : Nat} {fetch : Fetch}
    (hissued : .issued number fetch ∈ past) : fetch.request.kinds = fetch.purpose.kinds := by
  induction h with
  | start => simp at hissued
  | step _ hs ih =>
    cases hs with
    | wait | look | turn | answer => exact ih hissued
    | trigger | replace | deliver => exact ih (by simpa using hissued)
    | sort | ask | fetch =>
      rcases List.mem_cons.mp hissued with heq | hissued
      · cases heq
        rfl
      · exact ih hissued

/-! ### The call graph of the last completion -/

/-- The outcome of a fetch of the call graph of the context with a number. -/
def Happening.graph? (generation : Nat) : Happening → Option Outcome
  | .applied _ ⟨.topology g, outcome⟩ => if g = generation then some outcome else none
  | _ => none

theorem Happening.graph?_eq_some {generation : Nat} {a : Happening} {outcome : Outcome} :
    a.graph? generation = some outcome ↔
      ∃ number, a = .applied number ⟨.topology generation, outcome⟩ := by
  constructor
  · intro h
    cases a with
    | applied number completion =>
      obtain ⟨purpose, outcome'⟩ := completion
      cases purpose with
      | topology g =>
        obtain ⟨rfl, rfl⟩ : g = generation ∧ outcome' = outcome := by simpa [graph?] using h
        exact ⟨number, rfl⟩
      | diagrams | sorting => cases h
    | triggered | replaced | issued => cases h
  · rintro ⟨number, rfl⟩
    simp [graph?]

/-- A completion for another purpose is none for the call graph of the context. -/
theorem Happening.graph?_applied_of_ne {generation number : Nat} {completion : Completion}
    (h : completion.purpose ≠ .topology generation) :
    (Happening.applied number completion).graph? generation = none := by
  cases hgraph : (Happening.applied number completion).graph? generation with
  | none => rfl
  | some outcome =>
    obtain ⟨n, heq⟩ := graph?_eq_some.mp hgraph
    cases heq
    exact absurd rfl h

/-- **The call graph that is shown** is that of the last completion for the context. -/
theorem Course.graph_shown (h : Course x past) :
    x.controller.view.topology =
      ((past.findSome? (Happening.graph? x.controller.generation)).map Outcome.topology).getD "" := by
  induction h with
  | start => rfl
  | @step x _ past _ hx hs ih =>
    cases hs with
    | wait | look | turn | trigger | sort | fetch => exact ih
    | replace =>
      -- nothing has been requested for the context that comes
      have hnone : past.findSome? (Happening.graph? (x.controller.generation + 1)) = none := by
        refine List.findSome?_eq_none_iff.mpr fun a ha => ?_
        by_contra hsome
        obtain ⟨outcome, hgraph⟩ := Option.ne_none_iff_exists'.mp hsome
        obtain ⟨number, rfl⟩ := Happening.graph?_eq_some.mp hgraph
        obtain ⟨fetch, hissued, hpurpose⟩ := hx.accounted.purpose _ _ ha
        have := hx.topologyKept.bounded _ _ _ hissued hpurpose
        omega
      have hempty : ((past.findSome? (Happening.graph? (x.controller.generation + 1))).map
          Outcome.topology).getD "" = "" := by rw [hnone]; rfl
      exact hempty.symm
    | ask htopology hflight =>
      rw [Controller.requestTopology_of_missing ⟨htopology, hflight⟩]
      exact ih
    | answer =>
      rw [answer_controller]
      exact ih
    | @deliver number completion rest hqueued =>
      rw [deliver_controller hqueued, Controller.apply_generation, List.singleton_append,
        List.findSome?_cons]
      by_cases hgraph : completion.purpose = .topology x.controller.generation
      · obtain ⟨purpose, outcome⟩ := completion
        cases hgraph
        rw [Controller.apply_graph, Happening.graph?_eq_some.mpr ⟨number, rfl⟩]
        rfl
      · rw [(hx.topologyKept.apply_other hgraph).1, Happening.graph?_applied_of_ne hgraph]
        exact ih

/-! ### The same diagrams every time -/

/-- Every completion of a history brings the same diagrams, cut down to what it was for. -/
def Replays (d : Diagrams) (past : List Happening) : Prop :=
  ∀ number completion, .applied number completion ∈ past →
    completion.outcome = .data (d.retain completion.purpose.kinds)

end Exchange

/-- **In any order the same diagrams leave the same display**, once table and flame graph are among
them. -/
theorem Shown.after_of_same {d : Diagrams} {taken : List Intake}
    (h : ∀ t ∈ taken, ∃ completion generation, t = Completion.intake generation completion ∧
      completion.outcome = .data (d.retain completion.purpose.kinds))
    (hcharts : ∃ outcome, .charts outcome ∈ taken) :
    Shown.after taken = ⟨d.unit, d.table, d.flame, false, none⟩ := by
  induction taken with
  | nil => simp at hcharts
  | cons t taken ih =>
    rw [List.forall_mem_cons] at h
    obtain ⟨⟨⟨purpose, came⟩, generation, rfl, hcame⟩, hrest⟩ := h
    obtain rfl : came = .data (d.retain purpose.kinds) := hcame
    obtain ⟨outcome, hcharts⟩ := hcharts
    rw [after_cons]
    cases purpose with
    | diagrams => rfl
    | sorting =>
      have hcharts : .charts outcome ∈ taken := by simpa [Completion.intake] using hcharts
      rw [ih hrest ⟨outcome, hcharts⟩]
      rfl
    | topology g =>
      -- late or not, the call graph is none of this
      have hcharts : .charts outcome ∈ taken := by
        refine (List.mem_cons.mp hcharts).resolve_left fun heq => ?_
        simp only [Completion.intake] at heq
        split at heq <;> cases heq
      rw [ih hrest ⟨outcome, hcharts⟩]
      simp only [Completion.intake]
      split <;> rfl

namespace Exchange

variable {x : Exchange} {past : List Happening}

theorem Course.shown_of_replays (h : Course x past) {d : Diagrams} (hreplays : Replays d past)
    (hnone : awaited past = none) (hrest : x.controller.inFlight = 0) :
    x.controller.shown = ⟨d.unit, d.table, d.flame, false, none⟩ := by
  rw [h.shown]
  refine Shown.after_of_same (fun t ht => ?_) ?_
  · obtain ⟨number, completion, generation, happlied, heq⟩ := exists_applied_of_mem_intakes ht
    exact ⟨completion, generation, heq, hreplays _ _ happlied⟩
  · -- the last request for table and flame graph has had its answer
    obtain ⟨number, hcurrent⟩ := h.current hnone
    have hissued := mem_of_mem_recent hcurrent.charts
    obtain ⟨⟨purpose, outcome⟩, happlied⟩ :=
      h.accounted.all_applied hrest (h.accounted.lt_of_issued hissued)
    obtain ⟨fetch, hfetch, hpurpose⟩ := h.accounted.purpose _ _ happlied
    obtain rfl := h.accounted.eq_of_issued hfetch hissued
    cases hpurpose
    exact ⟨outcome, charts_mem_intakes happlied⟩

/-- The call graph that is shown is that of the diagrams, if any has come for the context. -/
theorem Course.graph_of_replays (h : Course x past) {d : Diagrams} (hreplays : Replays d past) :
    (past.findSome? (Happening.graph? x.controller.generation) = none ∧
        x.controller.view.topology = "") ∨
      x.controller.view.topology = d.topology := by
  rw [h.graph_shown]
  cases hgraph : past.findSome? (Happening.graph? x.controller.generation) with
  | none => exact .inl ⟨rfl, rfl⟩
  | some outcome =>
    obtain ⟨a, ha, hsome⟩ := List.exists_of_findSome?_eq_some hgraph
    obtain ⟨number, rfl⟩ := Happening.graph?_eq_some.mp hsome
    have houtcome : outcome = _ := hreplays _ _ ha
    rw [houtcome]
    exact .inr rfl

/-- In its mode the call graph has come, once everything is at rest. -/
theorem Course.graph_of_topo (h : Course x past) (hprovided : Provided x past)
    (hpending : ¬ x.controller.refreshPending) (hrest : x.controller.inFlight = 0)
    (htopo : x.controller.view.mode = .topo) :
    past.findSome? (Happening.graph? x.controller.generation) ≠ none := by
  rcases (hprovided htopo).resolve_left hpending with
    ⟨number, fetch, hopen, -⟩ | ⟨number, fetch, outcome, hanswered, hpurpose⟩
  · exact absurd hopen (h.not_outstanding hrest)
  · intro hnone
    have happlied := mem_of_mem_recent hanswered.2
    rw [hpurpose] at happlied
    have hgraph := List.findSome?_eq_none_iff.mp hnone _ happlied
    rw [Happening.graph?_eq_some.mpr ⟨number, rfl⟩] at hgraph
    cases hgraph

/-- **At rest the display is that of the saved response.** After any run in which every request is
answered from one file that holds diagrams, in whatever order, with no refresh pending and nothing in
flight: unit, rows and flame graph are those of the file, nothing is empty, loading or failed, and the
call graph is empty or that of the file, the latter in its mode. -/
theorem saved_response_at_rest (context : Context) (quiet : Nat) (mode : Mode) (events : List Event)
    {bytes : List UInt8} {d : Diagrams} (hread : Response.ofBytes bytes = .ok ⟨some d⟩) :
    let x := (Exchange.new context quiet mode).run events
    let c := x.controller
    (∀ number outcome, .answer number outcome ∈ events →
      ∀ fetch ∈ x.fetch? number,
        outcome = .ofResult (SavedFile.answer (.ok bytes) fetch.request)) →
    ¬ c.refreshPending → c.inFlight = 0 →
      c.view.unit = d.unit ∧ c.view.table = d.table ∧ c.view.flame = d.flame ∧
        c.view.empty = false ∧ c.view.isLoading = false ∧ c.lastFailure = none ∧
        (c.view.topology = "" ∨ c.view.topology = d.topology) ∧
        (c.view.mode = .topo → c.view.topology = d.topology) := by
  intro x c hfile hpending hrest
  have h : Course x (history (.new context quiet mode) events ++ [.triggered 0]) :=
    course_run context quiet mode events
  have hprovided := (Course.start context quiet mode).provided_run
    (fun _ => .inl (Controller.refresh_pending _ _)) events
  have hreplays : Replays d (history (.new context quiet mode) events ++ [.triggered 0]) := by
    intro number completion happlied
    obtain ⟨fetch, hissued, hpurpose⟩ := h.accounted.purpose _ _ happlied
    have hanswer := hfile _ _ (answer_of_applied_run happlied) fetch
      ((h.accounted.issued _ _).mp hissued)
    rw [hanswer, SavedFile.answer_of_diagrams hread, h.kinds_of_issued hissued, hpurpose]
  have hnone : awaited (history (.new context quiet mode) events ++ [.triggered 0]) = none := by
    rw [h.refreshPending] at hpending
    simpa using hpending
  have hshown := h.shown_of_replays hreplays hnone hrest
  simp only [Controller.shown, Shown.mk.injEq] at hshown
  obtain ⟨hunit, htable, hflame, hempty, hfailure⟩ := hshown
  have hgraph := h.graph_of_replays hreplays
  refine ⟨hunit, htable, hflame, hempty, h.not_loading hrest, hfailure, ?_, fun htopo => ?_⟩
  · exact hgraph.imp_left And.right
  · have hcome := h.graph_of_topo hprovided hpending hrest htopo
    exact hgraph.resolve_left fun hnothing => hcome hnothing.1

/-- The parameters are replaced while rows and call graph are on their way, the mode of the call graph
is entered, and the answers come in another order than the requests. -/
theorem saved_response_after_overtaking :
    -- {"diagrams":{"unit":"ms","table_data":[{"name":"f"}],"call_graph_data":"a"}}
    let bytes : List UInt8 := [
      123, 34, 100, 105, 97, 103, 114, 97, 109, 115, 34, 58, 123, 34, 117, 110, 105, 116, 34, 58,
      34, 109, 115, 34, 44, 34, 116, 97, 98, 108, 101, 95, 100, 97, 116, 97, 34, 58, 91, 123, 34,
      110, 97, 109, 101, 34, 58, 34, 102, 34, 125, 93, 44, 34, 99, 97, 108, 108, 95, 103, 114, 97,
      112, 104, 95, 100, 97, 116, 97, 34, 58, 34, 97, 34, 125, 125]
    let d : Diagrams := { unit := "ms", table := [{ name := "f" }], callGraph := some (.str "a") }
    let events : List Event := [.advance 300, .poll, .sortBy "-self", .setMode .topo,
      .setParams .empty, .advance 300, .poll, .answer 4 (.data (d.retain [.callgraph])),
      .answer 1 (.data (d.retain [.table])), .answer 3 (.data (d.retain [.table, .flamegraph])),
      .answer 2 (.data (d.retain [.callgraph])), .answer 0 (.data (d.retain [.table, .flamegraph])),
      .poll]
    let x := (Exchange.new default 300 .combine).run events
    let c := x.controller
    (Response.ofBytes bytes = .ok ⟨some d⟩ ∧
        (∀ number outcome, .answer number outcome ∈ events → ∀ fetch ∈ x.fetch? number,
          outcome = .ofResult (SavedFile.answer (.ok bytes) fetch.request)) ∧
        ¬ c.refreshPending ∧ c.inFlight = 0) ∧
      c.view.unit = d.unit ∧ c.view.table = d.table ∧ c.view.flame = d.flame ∧
        c.view.empty = false ∧ c.view.isLoading = false ∧ c.lastFailure = none ∧
        (c.view.topology = "" ∨ c.view.topology = d.topology) ∧
        (c.view.mode = .topo → c.view.topology = d.topology) := by
  intro bytes d events
  have hread : Response.ofBytes bytes = .ok ⟨some d⟩ := rfl
  have hkinds : ((Exchange.new default 300 .combine).run events).controller.ledger.reverse.map
      (·.request.kinds) =
      [[.table, .flamegraph], [.table], [.callgraph], [.table, .flamegraph], [.callgraph]] := by
    decide
  have hfile : ∀ number outcome, .answer number outcome ∈ events →
      ∀ fetch ∈ ((Exchange.new default 300 .combine).run events).fetch? number,
        outcome = .ofResult (SavedFile.answer (.ok bytes) fetch.request) := by
    intro number outcome hmem fetch hfetch
    have hfetch := congrArg (Option.map (·.request.kinds)) hfetch
    rw [fetch?, ← List.getElem?_map, hkinds] at hfetch
    rw [SavedFile.answer_of_diagrams hread]
    have hmem : (number = 4 ∧ outcome = .data (d.retain [.callgraph])) ∨
        (number = 1 ∧ outcome = .data (d.retain [.table])) ∨
        (number = 3 ∧ outcome = .data (d.retain [.table, .flamegraph])) ∨
        (number = 2 ∧ outcome = .data (d.retain [.callgraph])) ∨
        (number = 0 ∧ outcome = .data (d.retain [.table, .flamegraph])) := by
      simpa [events] using hmem
    rcases hmem with ⟨rfl, rfl⟩ | ⟨rfl, rfl⟩ | ⟨rfl, rfl⟩ | ⟨rfl, rfl⟩ | ⟨rfl, rfl⟩ <;>
      exact congrArg (fun kinds => Outcome.data (d.retain kinds)) (Option.some.inj hfetch)
  exact ⟨⟨hread, hfile, by decide⟩,
    saved_response_at_rest default 300 .combine events hread hfile (by decide) (by decide)⟩

end Exchange

end ProfileBrowser
