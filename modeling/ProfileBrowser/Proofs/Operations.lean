import ProfileBrowser.View.Exchange
import Mathlib.Data.List.Basic
/-!
# What the operations of the controller do

One description of each operation that later proofs cite in place of its definition: when the call
graph is requested and when not, what a poll fires, and what the applying of a completion leaves
alone.
-/

namespace ProfileBrowser

/-! ### Debouncing -/

/-- There is one key only, so scheduling it leaves nothing else pending. -/
theorem Debouncer.schedule_pending (d : Debouncer Trigger) (now : Nat) :
    (d.schedule .diagrams now).pending = [(.diagrams, now + d.quiet)] := by
  simp only [schedule, List.cons.injEq, true_and, List.filter_eq_nil_iff]
  rintro ⟨⟨⟩, deadline⟩ _
  simp

/-! ### Requests and outcomes -/

/-- The call graph in an outcome; empty without data. -/
def Outcome.topology : Outcome → String
  | .data d => d.topology
  | _ => ""

/-- Whether a request is one for table and flame graph. -/
def Fetch.isCharts (fetch : Fetch) : Bool := fetch.request.kinds = [.table, .flamegraph]

namespace Context

/-- A request in a context, without an order. -/
def request (context : Context) (kinds : List DiagramKind) : Request :=
  .make context.params context.range kinds

/-- The fetch of table and flame graph in a context. -/
def chartsFetch (context : Context) : Fetch := ⟨context.request [.table, .flamegraph], .diagrams⟩

/-- The fetch of rows in an order. -/
def sortFetch (context : Context) (directive : String) : Fetch :=
  ⟨{ context.request [.table] with sort := some directive }, .sorting⟩

/-- The fetch of the call graph in a context with its number. -/
def graphFetch (context : Context) (generation : Nat) : Fetch :=
  ⟨context.request [.callgraph], .topology generation⟩

/-- A fetch in a context of rows in an order or of the call graph. -/
inductive SideFetch (context : Context) : Fetch → Prop where
  /-- Rows in an order. -/
  | sort (directive : String) : SideFetch context (context.sortFetch directive)
  /-- The call graph. -/
  | graph (generation : Nat) : SideFetch context (context.graphFetch generation)

theorem SideFetch.not_isCharts {context : Context} {fetch : Fetch}
    (h : context.SideFetch fetch) : ¬ fetch.isCharts := by
  cases h <;> simp [Fetch.isCharts, sortFetch, graphFetch, request, Request.make]

end Context

namespace Controller

/-- Once table and flame graph are asked for, their fetch is pending. -/
theorem refresh_pending (c : Controller) (now : Nat) : (c.refresh now).refreshPending := by
  rw [refreshPending, refresh, Debouncer.isPending, Debouncer.schedule_pending]
  rfl

/-! ### Asking for the call graph -/

/-- The call graph of the context is neither there nor on its way. -/
def TopologyMissing (c : Controller) : Prop :=
  c.view.topology = "" ∧ c.topologyInFlight = none

theorem requestTopology_of_missing {c : Controller} (h : c.TopologyMissing) :
    c.requestTopology =
      ({ c with view := { c.view with isLoading := true },
                topologyInFlight := some c.generation } : Controller).issue
        (c.request [.callgraph]) (.topology c.generation) := by
  rw [requestTopology, h.1, h.2]
  rfl

theorem requestTopology_of_present {c : Controller} (h : ¬ c.TopologyMissing) :
    c.requestTopology = c := by
  rw [requestTopology, if_neg]
  simpa [TopologyMissing, String.isEmpty_iff] using h

/-- After the request the call graph is there or on its way. -/
theorem not_missing_requestTopology (c : Controller) : ¬ c.requestTopology.TopologyMissing := by
  by_cases h : c.TopologyMissing
  · rw [requestTopology_of_missing h]
    simp [TopologyMissing, issue]
  · rwa [requestTopology_of_present h]

theorem requestTopology_ledger (c : Controller) :
    ∃ new, c.requestTopology.ledger = new ++ c.ledger ∧ ∀ fetch ∈ new, c.context.SideFetch fetch := by
  by_cases h : c.TopologyMissing
  · refine ⟨[c.context.graphFetch c.generation], ?_, ?_⟩
    · rw [requestTopology_of_missing h]
      rfl
    · intro fetch hfetch
      rw [List.mem_singleton.mp hfetch]
      exact .graph _
  · exact ⟨[], by rw [requestTopology_of_present h]; rfl, by simp⟩

theorem requestTopology_debouncer (c : Controller) :
    c.requestTopology.debouncer = c.debouncer := by
  rw [requestTopology]
  split <;> rfl

/-! ### Switching the renderers -/

/-- The controller with other renderers. -/
def turned (c : Controller) (mode : Mode) : Controller :=
  { c with view := { c.view with highlight := none, mode } }

theorem setMode_same (c : Controller) : c.setMode c.view.mode = c := if_pos rfl

theorem setMode_topo {c : Controller} (h : c.view.mode ≠ .topo) :
    c.setMode .topo = (c.turned .topo).requestTopology := by
  rw [setMode, if_neg h.symm, if_pos rfl]
  rfl

theorem setMode_other {c : Controller} {mode : Mode} (h : mode ≠ c.view.mode)
    (htopo : mode ≠ .topo) : c.setMode mode = c.turned mode := by
  rw [setMode, if_neg h, if_neg htopo]
  rfl

/-! ### Firing -/

/-- Fetches table and flame graph, and no call graph. -/
def fetchCharts (c : Controller) : Controller :=
  { c with view := { c.view with highlight := none, isLoading := true } }
    |>.issue (c.request [.table, .flamegraph]) .diagrams

/-- The controller with nothing pending. -/
def unscheduled (c : Controller) : Controller :=
  { c with debouncer := ⟨c.debouncer.quiet, []⟩ }

theorem fetchDiagrams_topo {c : Controller} (h : c.view.mode = .topo) :
    c.fetchDiagrams = c.fetchCharts.requestTopology := if_pos h

theorem fetchDiagrams_other {c : Controller} (h : c.view.mode ≠ .topo) :
    c.fetchDiagrams = c.fetchCharts := if_neg h

/-- In its mode the call graph is there or on its way once table and flame graph are fetched. -/
theorem not_missing_fetchDiagrams {c : Controller} (h : c.fetchDiagrams.view.mode = .topo) :
    ¬ c.fetchDiagrams.TopologyMissing := by
  by_cases hmode : c.view.mode = .topo
  · rw [fetchDiagrams_topo hmode]
    exact not_missing_requestTopology _
  · rw [fetchDiagrams_other hmode] at h
    exact absurd h hmode

theorem fireDue_of_empty {c : Controller} (h : c.debouncer.pending = []) (now : Nat) :
    (c.fireDue now).1 = c := by
  obtain ⟨context, view, ⟨quiet, pending⟩⟩ := c
  subst h
  rfl

theorem fireDue_of_due {c : Controller} {deadline now : Nat}
    (h : c.debouncer.pending = [(.diagrams, deadline)]) (hdue : deadline ≤ now) :
    (c.fireDue now).1 = c.unscheduled.fetchDiagrams := by
  simp [fireDue, Debouncer.takeDue, h, hdue, unscheduled]

theorem fireDue_of_early {c : Controller} {deadline now : Nat}
    (h : c.debouncer.pending = [(.diagrams, deadline)]) (hearly : now < deadline) :
    (c.fireDue now).1 = c := by
  obtain ⟨context, view, ⟨quiet, pending⟩⟩ := c
  simp only at h
  subst h
  simp [fireDue, Debouncer.takeDue, hearly, Nat.not_le.mpr hearly]

/-! ### Completions -/

/-- The applying of a completion touches neither the context nor what has been asked for. -/
theorem apply_frame (c : Controller) (completion : Completion) :
    (c.apply completion).context = c.context ∧ (c.apply completion).ledger = c.ledger ∧
      (c.apply completion).debouncer = c.debouncer ∧
      (c.apply completion).generation = c.generation ∧
      (c.apply completion).view.mode = c.view.mode ∧
      (c.apply completion).inFlight = c.inFlight - 1 := by
  obtain ⟨purpose, outcome⟩ := completion
  cases purpose with
  | diagrams => cases outcome <;> exact ⟨rfl, rfl, rfl, rfl, rfl, rfl⟩
  | sorting => cases outcome <;> exact ⟨rfl, rfl, rfl, rfl, rfl, rfl⟩
  | topology generation =>
    simp only [apply, applyTopology]
    cases outcome <;> split_ifs <;> exact ⟨rfl, rfl, rfl, rfl, rfl, rfl⟩

@[simp] theorem apply_context (c : Controller) (completion : Completion) :
    (c.apply completion).context = c.context := (apply_frame c completion).1

@[simp] theorem apply_ledger (c : Controller) (completion : Completion) :
    (c.apply completion).ledger = c.ledger := (apply_frame c completion).2.1

@[simp] theorem apply_debouncer (c : Controller) (completion : Completion) :
    (c.apply completion).debouncer = c.debouncer := (apply_frame c completion).2.2.1

@[simp] theorem apply_generation (c : Controller) (completion : Completion) :
    (c.apply completion).generation = c.generation := (apply_frame c completion).2.2.2.1

@[simp] theorem apply_mode (c : Controller) (completion : Completion) :
    (c.apply completion).view.mode = c.view.mode := (apply_frame c completion).2.2.2.2.1

@[simp] theorem apply_inFlight (c : Controller) (completion : Completion) :
    (c.apply completion).inFlight = c.inFlight - 1 := (apply_frame c completion).2.2.2.2.2

/-- Table, flame graph and rows leave the call graph alone. -/
theorem apply_topology_of_other (c : Controller) {completion : Completion}
    (h : ∀ generation, completion.purpose ≠ .topology generation) :
    (c.apply completion).view.topology = c.view.topology ∧
      (c.apply completion).topologyInFlight = c.topologyInFlight := by
  obtain ⟨purpose, outcome⟩ := completion
  cases purpose with
  | diagrams => cases outcome <;> exact ⟨rfl, rfl⟩
  | sorting => cases outcome <;> exact ⟨rfl, rfl⟩
  | topology generation => exact absurd rfl (h generation)

/-- The call graph leaves table and flame graph alone. -/
theorem apply_charts_of_topology (c : Controller) (generation : Nat) (outcome : Outcome) :
    let view := (c.apply ⟨.topology generation, outcome⟩).view
    view.empty = c.view.empty ∧ view.unit = c.view.unit ∧ view.flame = c.view.flame ∧
      view.table = c.view.table := by
  simp only [apply, applyTopology]
  cases outcome <;> split_ifs <;> exact ⟨rfl, rfl, rfl, rfl⟩

/-- **A call graph of another context is dropped.** -/
theorem apply_topology_of_stale {c : Controller} {generation : Nat}
    (hstale : generation ≠ c.generation) (hflight : c.topologyInFlight ≠ some generation)
    (outcome : Outcome) :
    c.apply ⟨.topology generation, outcome⟩ =
      { c with inFlight := c.inFlight - 1, view := { c.view with isLoading := false } } := by
  simp only [apply, applyTopology, if_neg hflight]
  rw [if_pos hstale]

/-- A call graph of the context is shown. -/
theorem apply_topology_of_current {c : Controller} (hflight : c.topologyInFlight = some c.generation)
    (outcome : Outcome) :
    (c.apply ⟨.topology c.generation, outcome⟩).view.topology = outcome.topology ∧
      (c.apply ⟨.topology c.generation, outcome⟩).topologyInFlight = none := by
  simp only [apply, applyTopology, if_pos hflight]
  rw [if_neg (not_not.mpr rfl)]
  cases outcome <;> exact ⟨rfl, rfl⟩

end Controller

end ProfileBrowser
