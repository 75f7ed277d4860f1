import ProfileBrowser.Proofs.CallGraph
import ProfileBrowser.Proofs.Refresh
/-!
# What is displayed

Unit, flame graph and rows are those of the last completion that brought any, and the display counts
as empty by the last completion of a fetch of table and flame graph (`Course.displayed`). A completion
may arrive late and bring what belongs to a context that has been replaced. When completions are
applied in the order of their requests this passes: at rest the last one applied is for the last
request, and that carries the context (`Course.last_charts`), so everything on the screen belongs
together.
-/

namespace ProfileBrowser

/-- The diagrams of an outcome. -/
def Outcome.data? : Outcome → Option Diagrams
  | .data d => some d
  | _ => none

namespace Exchange

/-! ### What a completion brings -/

/-- The outcome of a fetch of table and flame graph. -/
def Happening.charts? : Happening → Option Outcome
  | .applied _ ⟨.diagrams, outcome⟩ => some outcome
  | _ => none

/-- What is shown of it as unit and flame graph. -/
def Happening.chartsData? (h : Happening) : Option Diagrams := h.charts?.bind Outcome.data?

/-- What is shown as rows. -/
def Happening.rows? : Happening → Option (List TableRow)
  | .applied _ ⟨.diagrams, outcome⟩ | .applied _ ⟨.sorting, outcome⟩ =>
    outcome.data?.map Diagrams.table
  | _ => none

/-- **What is displayed is what was brought last.** -/
structure Displayed (view : ViewState) (past : List Happening) : Prop where
  empty : view.empty = ((past.findSome? Happening.charts?).map Outcome.showsEmpty).getD false
  unit : view.unit = ((past.findSome? Happening.chartsData?).map Diagrams.unit).getD ""
  flame : view.flame = (past.findSome? Happening.chartsData?).bind Diagrams.flame
  table : view.table = (past.findSome? Happening.rows?).getD []

/-- Happenings that bring nothing leave the display as it is. -/
theorem Displayed.quiet {view view' : ViewState} {past news : List Happening}
    (h : Displayed view past) (hempty : view'.empty = view.empty) (hunit : view'.unit = view.unit)
    (hflame : view'.flame = view.flame) (htable : view'.table = view.table)
    (hcharts : ∀ a ∈ news, a.charts? = none) (hrows : ∀ a ∈ news, a.rows? = none) :
    Displayed view' (news ++ past) := by
  have hdata : ∀ a ∈ news, a.chartsData? = none := fun a ha => by
    rw [Happening.chartsData?, hcharts a ha, Option.bind_none]
  have hskip : ∀ {β : Type} {f : Happening → Option β}, (∀ a ∈ news, f a = none) →
      (news ++ past).findSome? f = past.findSome? f := fun hnone => by
    rw [List.findSome?_append, List.findSome?_eq_none_iff.mpr hnone, Option.none_or]
  constructor
  · rw [hskip hcharts, hempty, h.empty]
  · rw [hskip hdata, hunit, h.unit]
  · rw [hskip hdata, hflame, h.flame]
  · rw [hskip hrows, htable, h.table]

/-- A completion is displayed as what it brings. -/
theorem Displayed.apply {c : Controller} {past : List Happening} (h : Displayed c.view past)
    (number : Nat) (completion : Completion) :
    Displayed (c.apply completion).view (.applied number completion :: past) := by
  obtain ⟨purpose, outcome⟩ := completion
  cases purpose with
  | diagrams =>
    cases outcome with
    | data d => exact ⟨rfl, rfl, rfl, rfl⟩
    | empty => exact ⟨rfl, h.unit, h.flame, h.table⟩
    | failed => exact ⟨rfl, h.unit, h.flame, h.table⟩
  | sorting =>
    cases outcome with
    | data d => exact ⟨h.empty, h.unit, h.flame, rfl⟩
    | empty => exact ⟨h.empty, h.unit, h.flame, h.table⟩
    | failed => exact ⟨h.empty, h.unit, h.flame, h.table⟩
  | topology generation =>
    obtain ⟨hempty, hunit, hflame, htable⟩ := c.apply_charts_of_topology generation outcome
    have hsame : Displayed (c.apply ⟨.topology generation, outcome⟩).view
        ([.applied number ⟨.topology generation, outcome⟩] ++ past) := by
      refine h.quiet hempty hunit hflame htable ?_ ?_
      · simp [Happening.charts?]
      · simp [Happening.rows?]
    exact hsame

/-- What is displayed when the last completion of a fetch of table and flame graph brought
something. -/
theorem Displayed.of_last {view : ViewState} {later earlier : List Happening} {number : Nat}
    {outcome : Outcome}
    (h : Displayed view (later ++ .applied number ⟨.diagrams, outcome⟩ :: earlier))
    (hlater : ∀ a ∈ later, a.charts? = none) (hempty : ¬ view.empty) :
    ∃ d, outcome = .data d ∧ view.unit = d.unit ∧ view.flame = d.flame ∧
      (view.table = d.table ∨ ∃ a ∈ later, a.rows? = some view.table) := by
  have hdata : ∀ a ∈ later, a.chartsData? = none := fun a ha => by
    rw [Happening.chartsData?, hlater a ha, Option.bind_none]
  obtain ⟨hshown, hunit, hflame, htable⟩ := h
  rw [List.findSome?_append, List.findSome?_eq_none_iff.mpr hlater, Option.none_or] at hshown
  rw [List.findSome?_append, List.findSome?_eq_none_iff.mpr hdata, Option.none_or] at hunit hflame
  cases outcome with
  | empty | failed => exact absurd hshown hempty
  | data d =>
    refine ⟨d, rfl, hunit, hflame, ?_⟩
    rw [List.findSome?_append] at htable
    cases hrows : later.findSome? Happening.rows? with
    | none =>
      rw [hrows] at htable
      exact .inl htable
    | some rows =>
      obtain ⟨a, ha, hbrings⟩ := List.exists_of_findSome?_eq_some hrows
      rw [hrows] at htable
      exact .inr ⟨a, ha, htable ▸ hbrings⟩

/-- **The display along every course.** -/
theorem Course.displayed {x : Exchange} {past : List Happening} (h : Course x past) :
    Displayed x.controller.view past := by
  induction h with
  | start => exact ⟨rfl, rfl, rfl, rfl⟩
  | @step x _ past _ hx hs ih =>
    cases hs with
    | wait | look | turn | trigger | replace | sort | fetch =>
      refine ih.quiet rfl rfl rfl rfl ?_ ?_
      · simp [Happening.charts?]
      · simp [Happening.rows?]
    | ask htopology hflight =>
      rw [Controller.requestTopology_of_missing ⟨htopology, hflight⟩]
      refine ih.quiet rfl rfl rfl rfl ?_ ?_
      · simp [Happening.charts?]
      · simp [Happening.rows?]
    | answer =>
      rw [answer_controller]
      exact ih
    | @deliver number completion rest hqueued =>
      rw [deliver_controller hqueued]
      exact ih.apply number completion

/-! ### Completions in order -/

/-- **Completions are applied in the order of their requests.** -/
def InOrder (past : List Happening) : Prop := (appliedNumbers past).Pairwise (· > ·)

instance (past : List Happening) : Decidable (InOrder past) :=
  inferInstanceAs (Decidable (List.Pairwise _ _))

/-- In order, what is applied later is for a later request. -/
theorem InOrder.lt {later earlier : List Happening} {number : Nat} {completion : Completion}
    (h : InOrder (later ++ .applied number completion :: earlier)) {m : Nat} {c : Completion}
    (hm : .applied m c ∈ later) : number < m := by
  rw [InOrder, appliedNumbers, List.filterMap_append, List.pairwise_append] at h
  exact h.2.2 m (mem_appliedNumbers.mpr ⟨c, hm⟩) number List.mem_cons_self

variable {x : Exchange} {past : List Happening}

/-- A completion comes after its request: that of a recent one is recent. -/
theorem Course.applied_recent (h : Course x past) {number : Nat} {fetch : Fetch}
    (hissued : .issued number fetch ∈ recent past) {completion : Completion}
    (happlied : .applied number completion ∈ past) :
    .applied number completion ∈ recent past := by
  induction h with
  | start => simp at happlied
  | @step x _ past _ hx hs ih =>
    cases hs with
    | wait | look | turn | answer => exact ih hissued happlied
    | trigger =>
      refine List.mem_cons_of_mem _ (ih ?_ ?_)
      · simpa using hissued
      · simpa using happlied
    | replace => simp at hissued
    | sort | ask | fetch =>
      replace happlied : .applied number completion ∈ past := by simpa using happlied
      rcases List.mem_cons.mp hissued with heq | hissued
      · -- a number that is new has no completion yet
        cases heq
        exact absurd happlied (hx.accounted.not_applied_next completion)
      · exact List.mem_cons_of_mem _ (ih hissued happlied)
    | deliver =>
      rcases List.mem_cons.mp happlied with heq | happlied
      · exact heq ▸ List.mem_cons_self
      · exact List.mem_cons_of_mem _ (ih (by simpa using hissued) happlied)

/-- **At rest, in order**: the last fetch of table and flame graph whose completion has been applied
carries the context, and so does everything that has been applied since. -/
theorem Course.last_charts (h : Course x past) (horder : InOrder past)
    (hnone : awaited past = none) (hrest : x.controller.inFlight = 0) :
    ∃ number outcome later earlier,
      past = later ++ .applied number ⟨.diagrams, outcome⟩ :: earlier ∧
      Answered (recent past) number x.controller.context.chartsFetch outcome ∧
      ∀ m completion, .applied m completion ∈ later →
        number < m ∧ ∃ fetch, .issued m fetch ∈ recent past ∧ fetch.purpose = completion.purpose ∧
          x.controller.context.SideFetch fetch := by
  have haccounted := h.accounted
  obtain ⟨number, hcurrent⟩ := h.current hnone
  have hissued := mem_of_mem_recent hcurrent.charts
  obtain ⟨⟨purpose, outcome⟩, happlied⟩ := haccounted.all_applied hrest (haccounted.lt_of_issued hissued)
  obtain ⟨fetch, hfetch, hpurpose⟩ := haccounted.purpose _ _ happlied
  obtain rfl := haccounted.eq_of_issued hfetch hissued
  cases hpurpose
  obtain ⟨later, earlier, hpast⟩ := List.append_of_mem happlied
  refine ⟨number, outcome, later, earlier, hpast, ⟨hcurrent.charts, ?_⟩, fun m completion hm => ?_⟩
  · exact h.applied_recent hcurrent.charts happlied
  · have hlt : number < m := InOrder.lt (hpast ▸ horder) hm
    have hmem : .applied m completion ∈ past := hpast ▸ List.mem_append_left _ hm
    obtain ⟨f, hf, hpurpose⟩ := haccounted.purpose _ _ hmem
    obtain ⟨hrecent, hside⟩ := hcurrent.later m f hlt hf
    exact ⟨hlt, f, hrecent, hpurpose, hside⟩

/-- The completion of a fetch of rows or of the call graph brings neither unit nor flame graph. -/
theorem charts?_of_side {context : Context} {fetch : Fetch} (hside : context.SideFetch fetch)
    {completion : Completion} (hpurpose : fetch.purpose = completion.purpose) (number : Nat) :
    (Happening.applied number completion).charts? = none := by
  obtain ⟨purpose, outcome⟩ := completion
  cases hpurpose
  cases hside <;> rfl

/-- Rows it brings only as the answer to a fetch of rows in an order. -/
theorem sort_of_rows {context : Context} {fetch : Fetch} (hside : context.SideFetch fetch)
    {completion : Completion} (hpurpose : fetch.purpose = completion.purpose) {number : Nat}
    {rows : List TableRow} (hrows : (Happening.applied number completion).rows? = some rows) :
    ∃ directive d, fetch = context.sortFetch directive ∧ completion.outcome = .data d ∧
      rows = d.table := by
  obtain ⟨purpose, outcome⟩ := completion
  cases hpurpose
  cases hside with
  | graph generation => cases hrows
  | sort directive =>
    cases outcome with
    | data d =>
      cases hrows
      exact ⟨directive, d, rfl, rfl, rfl⟩
    | empty | failed => cases hrows

/-- **What is displayed at rest belongs together.** After any run in which completions are applied in
the order of their requests, with no refresh pending, nothing in flight and something to show: unit
and flame graph are those of an answer to a request with the parameters and the window of the context,
the rows are those of the same answer or of a later one to a sort in the context, and a call graph is
that of an answer to a request in the context. All of these requests were made since the context
came. -/
theorem display_of_one_context (context : Context) (quiet : Nat) (mode : Mode)
    (events : List Event) :
    let x := (Exchange.new context quiet mode).run events
    let past := history (.new context quiet mode) events ++ [.triggered 0]
    let c := x.controller
    InOrder past → ¬ c.refreshPending → c.inFlight = 0 → ¬ c.view.empty →
      ∃ number d,
        Answered (recent past) number ⟨c.request [.table, .flamegraph], .diagrams⟩ (.data d) ∧
        .answer number (.data d) ∈ events ∧ c.view.unit = d.unit ∧ c.view.flame = d.flame ∧
        (c.view.table = d.table ∨
          ∃ m directive d', number < m ∧
            Answered (recent past) m
              ⟨{ c.request [.table] with sort := some directive }, .sorting⟩ (.data d') ∧
            .answer m (.data d') ∈ events ∧ c.view.table = d'.table) ∧
        (c.view.topology = "" ∨
          ∃ m d', Answered (recent past) m
              ⟨c.request [.callgraph], .topology c.generation⟩ (.data d') ∧
            .answer m (.data d') ∈ events ∧ c.view.topology = d'.topology) := by
  intro x past c horder hpending hrest hempty
  have h : Course x past := course_run context quiet mode events
  have hnone : awaited past = none := by
    rw [h.refreshPending] at hpending
    simpa using hpending
  have hanswer : ∀ {number fetch outcome}, Answered (recent past) number fetch outcome →
      .answer number outcome ∈ events := fun hanswered =>
    answer_of_applied_run (mem_of_mem_recent hanswered.2)
  obtain ⟨number, outcome, later, earlier, hpast, hanswered, hlater⟩ :=
    h.last_charts horder hnone hrest
  have hcharts : ∀ a ∈ later, a.charts? = none := by
    intro a ha
    cases a with
    | applied m completion =>
      obtain ⟨-, fetch, -, hpurpose, hside⟩ := hlater m completion ha
      exact charts?_of_side hside hpurpose m
    | triggered | replaced | issued => rfl
  have hdisplayed := h.displayed
  rw [hpast] at hdisplayed
  obtain ⟨d, rfl, hunit, hflame, htable⟩ := hdisplayed.of_last hcharts hempty
  refine ⟨number, d, hanswered, hanswer hanswered, hunit, hflame, ?_, ?_⟩
  · rcases htable with htable | ⟨a, ha, hrows⟩
    · exact .inl htable
    · cases a with
      | triggered | replaced | issued => cases hrows
      | applied m completion =>
        obtain ⟨hlt, fetch, hissued, hpurpose, hside⟩ := hlater m completion ha
        obtain ⟨directive, d', rfl, houtcome, htable⟩ := sort_of_rows hside hpurpose hrows
        have happlied := h.applied_recent hissued (hpast ▸ List.mem_append_left _ ha)
        obtain ⟨purpose, outcome⟩ := completion
        cases hpurpose
        cases houtcome
        have hsorted : Answered (recent past) m (c.context.sortFetch directive) (.data d') :=
          ⟨hissued, happlied⟩
        exact .inr ⟨m, directive, d', hlt, hsorted, hanswer hsorted, htable⟩
  · by_cases hshown : c.view.topology = ""
    · exact .inl hshown
    · obtain ⟨-, m, d', hgraph, htopology⟩ := h.topologyKept.shown hshown
      exact .inr ⟨m, d', hgraph, hanswer hgraph, htopology⟩

/-- The rows are sorted while the first fetch is on its way, and the call graph is looked at. -/
theorem display_of_one_context_sorted :
    let events : List Event := [.advance 300, .poll, .sortBy "-total", .setMode .topo,
      .answer 0 (.data { unit := "samples" }), .answer 1 (.data {}), .answer 2 .empty, .poll]
    let x := (Exchange.new default 300 .combine).run events
    let past := history (.new default 300 .combine) events ++ [.triggered 0]
    let c := x.controller
    (InOrder past ∧ ¬ c.refreshPending ∧ c.inFlight = 0 ∧ ¬ c.view.empty) ∧
      ∃ number d,
        Answered (recent past) number ⟨c.request [.table, .flamegraph], .diagrams⟩ (.data d) ∧
        .answer number (.data d) ∈ events ∧ c.view.unit = d.unit ∧ c.view.flame = d.flame ∧
        (c.view.table = d.table ∨
          ∃ m directive d', number < m ∧
            Answered (recent past) m
              ⟨{ c.request [.table] with sort := some directive }, .sorting⟩ (.data d') ∧
            .answer m (.data d') ∈ events ∧ c.view.table = d'.table) ∧
        (c.view.topology = "" ∨
          ∃ m d', Answered (recent past) m
              ⟨c.request [.callgraph], .topology c.generation⟩ (.data d') ∧
            .answer m (.data d') ∈ events ∧ c.view.topology = d'.topology) :=
  ⟨by decide, display_of_one_context default 300 .combine _ (by decide) (by decide) (by decide)
    (by decide)⟩

end Exchange

end ProfileBrowser
