import ProfileBrowser.Proofs.Accounts
/-!
# Debounced fetches

Table and flame graph are asked for at the start and at every change of the context, and fetched by
the first poll that comes a quiet period after the last asking. Between the asking and the poll the
refresh is pending; afterwards nothing has touched the context, so the request carries what is
current, and so does everything that is issued after it (`Current`).

`one_fetch_once_quiet` puts this together: which event issues a request for table and flame graph,
how many and with what in it, and that no change of the context goes unfetched.
-/

namespace ProfileBrowser.Exchange

variable {x y : Exchange} {past news : List Happening}

/-! ### The last request -/

/-- The last entry of a kind in a ledger, found by its number. -/
theorem find?_eq_of_last {p : Fetch → Bool} {ledger : List Fetch} {number : Nat} {fetch : Fetch}
    (hfetch : ledger.reverse[number]? = some fetch) (hp : p fetch)
    (hlater : ∀ n f, number < n → ledger.reverse[n]? = some f → ¬ p f) :
    ledger.find? p = some fetch := by
  induction ledger with
  | nil => simp at hfetch
  | cons last earlier ih =>
    rw [List.reverse_cons] at hfetch hlater
    have hlast : (earlier.reverse ++ [last])[earlier.length]? = some last := by simp
    by_cases hnumber : number < earlier.length
    · rw [List.find?_cons_of_neg (hlater _ _ hnumber hlast)]
      refine ih ?_ fun n f hn hf => hlater n f hn ?_
      · rwa [List.getElem?_append_left (by simpa using hnumber)] at hfetch
      · have hlt := (List.getElem?_eq_some_iff.mp hf).1
        rwa [List.getElem?_append_left hlt]
    · have hlt : number < (earlier.reverse ++ [last]).length :=
        (List.getElem?_eq_some_iff.mp hfetch).1
      have heq : number = earlier.length := by
        simp at hlt
        omega
      subst heq
      rw [hlast] at hfetch
      cases hfetch
      exact List.find?_cons_of_pos hp

/-- **A request for table and flame graph is current**: it carries the context, nothing has replaced
the context since, and what was issued after it is in the same context. -/
structure Current (context : Context) (past : List Happening) (number : Nat) : Prop where
  /-- The request itself. -/
  charts : .issued number context.chartsFetch ∈ recent past
  /-- The requests after it. -/
  later : ∀ n fetch, number < n → .issued n fetch ∈ past →
    .issued n fetch ∈ recent past ∧ context.SideFetch fetch

/-- Another request in the context leaves the last one for table and flame graph current. -/
theorem Current.issue {context : Context} {number : Nat} {fetch : Fetch}
    (h : Current context past number) (hfetch : context.SideFetch fetch) (n : Nat) :
    Current context (.issued n fetch :: past) number where
  charts := List.mem_cons_of_mem _ h.charts
  later := by
    intro m f hm hf
    rcases List.mem_cons.mp hf with hf | hf
    · cases hf
      exact ⟨List.mem_cons_self, hfetch⟩
    · obtain ⟨hrecent, hside⟩ := h.later m f hm hf
      exact ⟨List.mem_cons_of_mem _ hrecent, hside⟩

/-- The applying of a completion does so, too. -/
theorem Current.apply {context : Context} {number : Nat} (h : Current context past number) (n : Nat)
    (completion : Completion) : Current context (.applied n completion :: past) number where
  charts := List.mem_cons_of_mem _ h.charts
  later := by
    intro m f hm hf
    obtain ⟨hrecent, hside⟩ := h.later m f hm (by simpa using hf)
    exact ⟨List.mem_cons_of_mem _ hrecent, hside⟩

/-- **With nothing awaited the last request for table and flame graph is current.** -/
theorem Course.current (h : Course x past) (hnone : awaited past = none) :
    ∃ number, Current x.controller.context past number := by
  induction h with
  | start => cases hnone
  | @step x y past news hx hs ih =>
    cases hs with
    | wait | look | turn => exact ih hnone
    | trigger | replace => cases hnone
    | sort directive =>
      obtain ⟨number, hcurrent⟩ := ih hnone
      exact ⟨number, hcurrent.issue (.sort directive) _⟩
    | ask htopology hflight =>
      obtain ⟨number, hcurrent⟩ := ih hnone
      rw [Controller.requestTopology_of_missing ⟨htopology, hflight⟩]
      exact ⟨number, hcurrent.issue (.graph _) _⟩
    | fetch =>
      refine ⟨x.controller.requestsIssued, List.mem_cons_self, fun n f hn hf => ?_⟩
      rcases List.mem_cons.mp hf with hf | hf
      · cases hf
        exact absurd hn (Nat.lt_irrefl _)
      · have := hx.accounted.lt_of_issued hf
        omega
    | answer =>
      rw [answer_controller]
      exact ih hnone
    | deliver hqueued =>
      obtain ⟨number, hcurrent⟩ := ih hnone
      rw [deliver_controller hqueued, Controller.apply_context]
      exact ⟨number, hcurrent.apply _ _⟩

/-- A current request is the last for table and flame graph in the ledger. -/
theorem Course.find?_charts (h : Course x past) {number : Nat}
    (hcurrent : Current x.controller.context past number) :
    x.controller.ledger.find? Fetch.isCharts =
      some x.controller.context.chartsFetch := by
  have hissued := h.accounted.issued
  have hfetch := (hissued _ _).mp (mem_of_mem_recent hcurrent.charts)
  refine find?_eq_of_last hfetch rfl fun n f hn hf => ?_
  exact (hcurrent.later n f hn ((hissued _ _).mpr hf)).2.not_isCharts

theorem Course.refreshPending (h : Course x past) :
    x.controller.refreshPending = (awaited past).isSome := by
  rw [Controller.refreshPending, Debouncer.isPending, h.pending]
  cases awaited past <;> rfl

/-! ### What an event issues -/

/-- What is due fetches table and flame graph once, and the call graph at most. -/
theorem Course.fire_ledger (h : Course x past) {time : Nat} (hawaited : awaited past = some time)
    (hdue : time + x.controller.debouncer.quiet ≤ x.now) :
    ∃ new, x.fire.controller.ledger =
        new ++ x.controller.context.chartsFetch :: x.controller.ledger ∧
      ∀ fetch ∈ new, x.controller.context.SideFetch fetch := by
  rw [h.fire_of_due hawaited hdue]
  by_cases hmode : x.controller.unscheduled.view.mode = .topo
  · rw [Controller.fetchDiagrams_topo hmode]
    obtain ⟨new, hnew, hside⟩ := x.controller.unscheduled.fetchCharts.requestTopology_ledger
    exact ⟨new, hnew, hside⟩
  · rw [Controller.fetchDiagrams_other hmode]
    exact ⟨[], rfl, by simp⟩

/-- No event but a poll fetches table and flame graph together. -/
theorem handle_ledger (x : Exchange) {e : Event} (he : e ≠ .poll) :
    ∃ new, (x.handle e).controller.ledger = new ++ x.controller.ledger ∧
      ∀ fetch ∈ new, x.controller.context.SideFetch fetch := by
  cases e with
  | poll => exact absurd rfl he
  | setParams | setRange | refresh | highlight | setFilter | toggleDirection | advance =>
    exact ⟨[], rfl, by simp⟩
  | sortBy directive =>
    refine ⟨[x.controller.context.sortFetch directive], rfl, ?_⟩
    intro fetch hfetch
    rw [List.mem_singleton.mp hfetch]
    exact .sort directive
  | setMode mode =>
    rw [handle, Controller.setMode]
    split_ifs
    · exact ⟨[], rfl, by simp⟩
    · obtain ⟨new, hnew, hside⟩ := (x.controller.turned mode).requestTopology_ledger
      exact ⟨new, hnew, hside⟩
    · exact ⟨[], rfl, by simp⟩
  | answer number outcome =>
    rw [handle, answer_controller]
    exact ⟨[], rfl, by simp⟩

/-! ### The quiet period -/

theorem Step.quiet (h : Step x news y) :
    y.controller.debouncer.quiet = x.controller.debouncer.quiet := by
  cases h with
  | wait | look | turn | trigger | replace | sort | fetch => rfl
  | ask => rw [Controller.requestTopology_debouncer]
  | answer => rw [answer_controller]
  | deliver hqueued => rw [deliver_controller hqueued, Controller.apply_debouncer]

theorem Steps.quiet (h : Steps x news y) :
    y.controller.debouncer.quiet = x.controller.debouncer.quiet := by
  induction h with
  | refl => rfl
  | tail _ hs ih => rw [hs.quiet, ih]

theorem run_quiet (context : Context) (quiet : Nat) (mode : Mode) (events : List Event) :
    ((Exchange.new context quiet mode).run events).controller.debouncer.quiet = quiet :=
  ((Course.start context quiet mode).run_steps events).quiet

/-! ### No change is lost, and a burst is fetched once -/

theorem filter_isCharts_eq_nil {context : Context} {new : List Fetch}
    (h : ∀ fetch ∈ new, context.SideFetch fetch) : new.filter Fetch.isCharts = [] :=
  List.filter_eq_nil_iff.mpr fun fetch hfetch => (h fetch hfetch).not_isCharts

/-- **Which events fetch table and flame graph, how often and with what.** After any run: a poll
issues exactly one request for them, with the parameters and the window of the context as it is then,
if they have been asked for since the last such request and a quiet period has passed since the last
asking, and none otherwise; no other event issues any. So either a refresh is pending or the last such
request carries the current context. -/
theorem one_fetch_once_quiet (context : Context) (quiet : Nat) (mode : Mode)
    (events : List Event) :
    let x := (Exchange.new context quiet mode).run events
    let past := history (.new context quiet mode) events ++ [.triggered 0]
    let wanted : Request :=
      { params := x.controller.context.params
        start := TimeRange.micros x.controller.context.range.start
        stop := TimeRange.micros x.controller.context.range.stop
        kinds := [.table, .flamegraph] }
    (∃ new, (x.handle .poll).controller.ledger = new ++ x.controller.ledger ∧
      ((∃ time, awaited past = some time ∧ time + quiet ≤ x.now) →
        (new.filter Fetch.isCharts).map Fetch.request = [wanted]) ∧
      ((¬ ∃ time, awaited past = some time ∧ time + quiet ≤ x.now) →
        new.filter Fetch.isCharts = [])) ∧
    (∀ e, e ≠ .poll → ∃ new, (x.handle e).controller.ledger = new ++ x.controller.ledger ∧
      new.filter Fetch.isCharts = []) ∧
    (x.controller.refreshPending ∨
      (x.controller.ledger.find? Fetch.isCharts).map Fetch.request = some wanted) := by
  intro x past wanted
  have h : Course x past := course_run context quiet mode events
  have hquiet : x.controller.debouncer.quiet = quiet := run_quiet context quiet mode events
  refine ⟨?_, fun e he => ?_, ?_⟩
  · rw [poll_ledger]
    by_cases hdue : ∃ time, awaited past = some time ∧ time + quiet ≤ x.now
    · obtain ⟨time, hawaited, htime⟩ := hdue
      obtain ⟨new, hnew, hside⟩ := h.fire_ledger hawaited (hquiet ▸ htime)
      refine ⟨new ++ [x.controller.context.chartsFetch], ?_, ?_, ?_⟩
      · rw [hnew, List.append_assoc, List.singleton_append]
      · intro _
        rw [List.filter_append, filter_isCharts_eq_nil hside]
        rfl
      · exact fun hnot => absurd ⟨time, hawaited, htime⟩ hnot
    · have hx : x.fire = x := h.fire_of_early fun time hawaited =>
        Nat.lt_of_not_le fun hle => hdue ⟨time, hawaited, hquiet ▸ hle⟩
      exact ⟨[], by rw [hx]; rfl, fun hyes => absurd hyes hdue, fun _ => rfl⟩
  · obtain ⟨new, hnew, hside⟩ := x.handle_ledger he
    exact ⟨new, hnew, filter_isCharts_eq_nil hside⟩
  · rw [h.refreshPending]
    cases hawaited : awaited past with
    | some time => exact .inl rfl
    | none =>
      obtain ⟨number, hcurrent⟩ := h.current hawaited
      rw [h.find?_charts hcurrent]
      exact .inr rfl

end ProfileBrowser.Exchange
