import ProfileBrowser.Proofs.Display
/-!
# What completions leave

Unit, rows, flame graph, the mark that there is nothing to show and the last failure are written by
completions and by nothing else. How a completion is taken in depends on what it is for, on its
outcome, and, for a call graph, on whether the context has been replaced since it was requested
(`Intake`). The five of them are a function of what has been taken in (`Shown.after`), whatever the
user did in between (`shown_of_intakes`).

An outcome without data destroys nothing that is displayed. For the call graph this is no property of
the completion, which does write the empty text: none is shown while one is on its way
(`failure_keeps_display`).
-/

namespace ProfileBrowser

namespace Exchange

/-! ### The states of a run -/

/-- An exchange inside its next poll: what is due has been fired, and the `k` completions that have
waited longest have been applied. -/
def amid (x : Exchange) (k : Nat) : Exchange := x.fire.deliverFirst k

/-- What happens in a poll up to then, the last first. -/
def happeningsAmid (x : Exchange) (k : Nat) : List Happening :=
  ((x.queued.take k).map fun p => .applied p.1 p.2).reverse ++ issuedSince x x.fire

/-- **A state of a run**, with the history up to it. -/
inductive Reached : Exchange → List Happening → Prop where
  /-- Between two events. -/
  | after (context : Context) (quiet : Nat) (mode : Mode) (events : List Event) :
    Reached ((Exchange.new context quiet mode).run events)
      (history (.new context quiet mode) events ++ [.triggered 0])
  /-- Inside the poll that comes next. -/
  | amid (context : Context) (quiet : Nat) (mode : Mode) (events : List Event) (k : Nat) :
    Reached (((Exchange.new context quiet mode).run events).amid k)
      (((Exchange.new context quiet mode).run events).happeningsAmid k ++
        (history (.new context quiet mode) events ++ [.triggered 0]))

theorem Course.amid {x : Exchange} {past : List Happening} (h : Course x past) (k : Nat) :
    Course (x.amid k) (x.happeningsAmid k ++ past) :=
  h.steps (h.fire_steps.trans (deliverFirst_deliveries k (x := x.fire) h.room).steps)

theorem Reached.course {x : Exchange} {past : List Happening} (h : Reached x past) :
    Course x past := by
  cases h with
  | after context quiet mode events => exact course_run context quiet mode events
  | amid context quiet mode events k => exact (course_run context quiet mode events).amid k

/-! ### The number of the context -/

/-- How often the context has been replaced. -/
def replacements : List Happening → Nat
  | [] => 0
  | .replaced :: past => replacements past + 1
  | _ :: past => replacements past

/-- A context is numbered by the replacements that it took. -/
theorem Course.generation_eq {x : Exchange} {past : List Happening} (h : Course x past) :
    x.controller.generation = replacements past := by
  induction h with
  | start => rfl
  | step _ hs ih =>
    cases hs with
    | wait | look | turn | trigger | sort | fetch => exact ih
    | replace => exact congrArg (· + 1) ih
    | ask htopology hflight =>
      rw [Controller.requestTopology_of_missing ⟨htopology, hflight⟩]
      exact ih
    | answer =>
      rw [answer_controller]
      exact ih
    | deliver hqueued =>
      rw [deliver_controller hqueued, Controller.apply_generation]
      exact ih

end Exchange

/-! ### Taking in -/

/-- A completion as the controller takes it in. -/
inductive Intake where
  /-- Table and flame graph. -/
  | charts (outcome : Outcome)
  /-- Rows in an order. -/
  | rows (outcome : Outcome)
  /-- The call graph of the context. -/
  | graph (outcome : Outcome)
  /-- The call graph of a context that has been replaced. -/
  | stale (outcome : Outcome)

/-- How a completion is taken in when the context has the given number. -/
def Completion.intake (generation : Nat) : Completion → Intake
  | ⟨.diagrams, outcome⟩ => .charts outcome
  | ⟨.sorting, outcome⟩ => .rows outcome
  | ⟨.topology g, outcome⟩ => if g = generation then .graph outcome else .stale outcome

/-- The failure in an outcome. -/
def Outcome.failure? : Outcome → Option QueryError
  | .failed e => some e
  | _ => none

namespace Intake

/-- The outcome of a fetch of table and flame graph. -/
def charts? : Intake → Option Outcome
  | charts outcome => some outcome
  | _ => none

/-- The rows that come with it. -/
def rows? : Intake → Option (List TableRow)
  | charts outcome | rows outcome => outcome.data?.map Diagrams.table
  | _ => none

/-- The failure that is noted. -/
def failure? : Intake → Option QueryError
  | charts outcome | rows outcome | graph outcome => outcome.failure?
  | stale _ => none

/-- Whether earlier failures are forgotten: table and flame graph have come, be it without data. -/
def clears : Intake → Bool
  | charts outcome => outcome.failure?.isNone
  | _ => false

end Intake

namespace Exchange

/-- What a history has taken in, the last first. -/
def intakes : List Happening → List Intake
  | [] => []
  | .applied _ completion :: past => completion.intake (replacements past) :: intakes past
  | _ :: past => intakes past

/-- What has been taken in are completions that have been applied. -/
theorem exists_applied_of_mem_intakes {past : List Happening} {t : Intake} (ht : t ∈ intakes past) :
    ∃ number completion generation,
      .applied number completion ∈ past ∧ t = completion.intake generation := by
  induction past with
  | nil => cases ht
  | cons a past ih =>
    cases a with
    | triggered | replaced | issued =>
      obtain ⟨number, completion, generation, happlied, heq⟩ := ih ht
      exact ⟨number, completion, generation, List.mem_cons_of_mem _ happlied, heq⟩
    | applied number completion =>
      rcases List.mem_cons.mp ht with rfl | ht
      · exact ⟨number, completion, _, List.mem_cons_self, rfl⟩
      · obtain ⟨n, c, generation, happlied, heq⟩ := ih ht
        exact ⟨n, c, generation, List.mem_cons_of_mem _ happlied, heq⟩

/-- Table and flame graph are taken in whenever they come. -/
theorem charts_mem_intakes {past : List Happening} {number : Nat} {outcome : Outcome}
    (h : .applied number ⟨.diagrams, outcome⟩ ∈ past) : .charts outcome ∈ intakes past := by
  induction past with
  | nil => cases h
  | cons a past ih =>
    cases a with
    | triggered | replaced | issued => exact ih (by simpa using h)
    | applied n completion =>
      rcases List.mem_cons.mp h with heq | h
      · cases heq
        exact List.mem_cons_self
      · exact List.mem_cons_of_mem _ (ih h)

end Exchange

/-! ### What is shown -/

/-- What completions write and nothing else does; the call graph has rules of its own. -/
structure Shown where
  unit : String
  table : List TableRow
  flame : Option FlameNode
  empty : Bool
  lastFailure : Option QueryError

/-- What a controller shows. -/
def Controller.shown (c : Controller) : Shown :=
  ⟨c.view.unit, c.view.table, c.view.flame, c.view.empty, c.lastFailure⟩

/-- **What is to be shown** after completions, the last first: unit and flame graph of the last table
and flame graph that came with data; the rows that came last; nothing to show if the last table and
flame graph came without data; and the last failure since table and flame graph came without one. -/
def Shown.after (taken : List Intake) : Shown :=
  let charts := taken.findSome? fun t => t.charts?.bind Outcome.data?
  { unit := (charts.map Diagrams.unit).getD ""
    table := (taken.findSome? Intake.rows?).getD []
    flame := charts.bind Diagrams.flame
    empty := ((taken.findSome? Intake.charts?).map Outcome.showsEmpty).getD false
    lastFailure := (taken.takeWhile fun t => !t.clears).findSome? Intake.failure? }

/-- What a completion changes of what is shown. -/
def Shown.take (s : Shown) : Intake → Shown
  | .charts (.data d) =>
    { unit := d.unit, table := d.table, flame := d.flame, empty := false, lastFailure := none }
  | .charts .empty => { s with empty := true, lastFailure := none }
  | .charts (.failed e) => { s with empty := true, lastFailure := some e }
  | .rows (.data d) => { s with table := d.table }
  | .rows (.failed e) | .graph (.failed e) => { s with lastFailure := some e }
  | _ => s

/-- What comes last is on top of what was shown before. -/
theorem Shown.after_cons (t : Intake) (taken : List Intake) :
    Shown.after (t :: taken) = (Shown.after taken).take t := by
  cases t with
  | charts outcome | rows outcome | graph outcome => cases outcome <;> rfl
  | stale outcome => rfl

namespace Controller

/-- The call graph of the context: the text is that of the outcome, be it empty. -/
theorem apply_graph (c : Controller) (outcome : Outcome) :
    c.apply ⟨.topology c.generation, outcome⟩ =
      { c with
        inFlight := c.inFlight - 1
        topologyInFlight :=
          if c.topologyInFlight = some c.generation then none else c.topologyInFlight
        lastFailure := outcome.failure?.or c.lastFailure
        view := { c.view with isLoading := false, topology := outcome.topology } } := by
  by_cases hflight : c.topologyInFlight = some c.generation
  · simp only [apply, applyTopology, if_pos hflight]
    rw [if_neg (not_not.mpr rfl)]
    cases outcome <;> rfl
  · simp only [apply, applyTopology, if_neg hflight]
    rw [if_neg (not_not.mpr rfl)]
    cases outcome <;> rfl

/-- The call graph of another context. -/
theorem apply_stale (c : Controller) {g : Nat} (hg : g ≠ c.generation) (outcome : Outcome) :
    c.apply ⟨.topology g, outcome⟩ =
      { c with
        inFlight := c.inFlight - 1
        topologyInFlight := if c.topologyInFlight = some g then none else c.topologyInFlight
        view := { c.view with isLoading := false } } := by
  by_cases hflight : c.topologyInFlight = some g
  · simp only [apply, applyTopology, if_pos hflight]
    rw [if_pos hg]
  · simp only [apply, applyTopology, if_neg hflight]
    rw [if_pos hg]

/-- A completion changes what is shown by the way it is taken in. -/
theorem apply_shown (c : Controller) (completion : Completion) :
    (c.apply completion).shown = c.shown.take (completion.intake c.generation) := by
  obtain ⟨purpose, outcome⟩ := completion
  cases purpose with
  | diagrams => cases outcome <;> rfl
  | sorting => cases outcome <;> rfl
  | topology g =>
    by_cases hg : g = c.generation
    · rw [hg, apply_graph, Completion.intake, if_pos rfl]
      cases outcome <;> rfl
    · rw [apply_stale c hg, Completion.intake, if_neg hg]
      rfl

end Controller

namespace Exchange

variable {x : Exchange} {past : List Happening}

/-- **What is shown along every course** is what its completions leave. -/
theorem Course.shown (h : Course x past) : x.controller.shown = .after (intakes past) := by
  induction h with
  | start => rfl
  | @step x _ past _ hx hs ih =>
    cases hs with
    | wait | look | turn | trigger | replace | sort | fetch => exact ih
    | ask htopology hflight =>
      rw [Controller.requestTopology_of_missing ⟨htopology, hflight⟩]
      exact ih
    | answer =>
      rw [answer_controller]
      exact ih
    | @deliver number completion rest hqueued =>
      have htaken : intakes ([.applied number completion] ++ past) =
          completion.intake x.controller.generation :: intakes past := by
        rw [hx.generation_eq]
        rfl
      rw [deliver_controller hqueued, Controller.apply_shown, ih, htaken, Shown.after_cons]

/-- **What is shown is a function of the completions that have been applied**: of what they were for,
of their outcomes and of which were late. In every state of a run it is what they leave; so two runs
that have applied the same completions show the same, whatever the user did in them. -/
theorem shown_of_intakes (h : Reached x past) :
    x.controller.shown = .after (intakes past) ∧
      ∀ y past', Reached y past' → intakes past' = intakes past →
        y.controller.shown = x.controller.shown := by
  refine ⟨h.course.shown, fun y past' hy hsame => ?_⟩
  rw [h.course.shown, hy.course.shown, hsame]

/-- Two completions into a poll: the rows could not be sorted, and the call graph is for a context that
has been replaced. -/
theorem shown_of_late_call_graph :
    let events : List Event := [.setMode .topo, .advance 300, .poll, .sortBy "-self", .refresh,
      .answer 1 (.data { unit := "samples" }), .poll, .setParams .empty, .answer 2 (.failed .timeout),
      .answer 0 (.failed (.status 500))]
    let x := (Exchange.new default 300 .combine).run events
    let past := x.happeningsAmid 2 ++ (history (.new default 300 .combine) events ++ [.triggered 0])
    let taken : List Intake := [.stale (.failed (.status 500)), .rows (.failed .timeout),
      .charts (.data { unit := "samples" })]
    (Reached (x.amid 2) past ∧ intakes past = taken) ∧
      (x.amid 2).controller.shown = .after taken ∧
        ∀ y past', Reached y past' → intakes past' = taken →
          y.controller.shown = (x.amid 2).controller.shown := by
  intro events x past taken
  have h : Reached (x.amid 2) past := .amid default 300 .combine events 2
  exact ⟨⟨h, rfl⟩, shown_of_intakes h⟩

/-! ### Outcomes without data -/

/-- **An outcome without data destroys nothing that is displayed.** In every state of a run, when the
completion of an outstanding request brings no data, its applying changes the counts of what is on its
way, the last failure, the mark of loading (unless rows were to be sorted) and the mark that there is
nothing to show (only for table and flame graph), and nothing else. -/
theorem failure_keeps_display (h : Reached x past) {number : Nat} {fetch : Fetch}
    (hopen : Outstanding past number fetch) {outcome : Outcome} (hnone : outcome.data? = none) :
    let c := x.controller
    let d := c.apply ⟨fetch.purpose, outcome⟩
    d = { c with
          inFlight := d.inFlight
          topologyInFlight := d.topologyInFlight
          lastFailure := d.lastFailure
          view := { c.view with isLoading := d.view.isLoading, empty := d.view.empty } } ∧
      (fetch.purpose = .sorting → d.view.isLoading = c.view.isLoading) ∧
      (fetch.purpose ≠ .diagrams → d.view.empty = c.view.empty) := by
  intro c d
  have hkept : TopologyKept c.context c.generation c.view.topology c.topologyInFlight past :=
    h.course.topologyKept
  obtain ⟨request, purpose⟩ := fetch
  cases purpose with
  | diagrams =>
    refine ⟨?_, (fun hsort => by cases hsort), fun hother => absurd rfl hother⟩
    cases outcome with
    | data => cases hnone
    | empty | failed => rfl
  | sorting =>
    cases outcome with
    | data => cases hnone
    | empty | failed => exact ⟨rfl, fun _ => rfl, fun _ => rfl⟩
  | topology g =>
    by_cases hg : g = c.generation
    · -- while it is on its way no call graph is shown, so the empty text overwrites the empty text
      have hflight : c.topologyInFlight = some c.generation := hkept.noted hopen (by rw [hg])
      have hblank : c.view.topology = outcome.topology := by
        have hshown : c.view.topology = "" := by
          by_contra hne
          rw [(hkept.shown hne).1] at hflight
          cases hflight
        cases outcome with
        | data => cases hnone
        | empty | failed => exact hshown
      have hd : d = c.apply ⟨.topology c.generation, outcome⟩ := by rw [← hg]
      rw [hd, c.apply_graph, ← hblank]
      exact ⟨rfl, (fun hsort => by cases hsort), fun _ => rfl⟩
    · have hd : d = c.apply ⟨.topology g, outcome⟩ := rfl
      rw [hd, c.apply_stale hg]
      exact ⟨rfl, (fun hsort => by cases hsort), fun _ => rfl⟩

/-- A call graph is shown, and the request for that of the context before fails late. -/
theorem failure_keeps_call_graph :
    let events : List Event := [.setMode .topo, .setParams .empty, .advance 300, .poll,
      .answer 2 (.data { callGraph := some (.str "a -> b") }), .poll]
    let x := (Exchange.new default 300 .combine).run events
    let past := history (.new default 300 .combine) events ++ [.triggered 0]
    let fetch := Context.graphFetch default 0
    let c := x.controller
    let d := c.apply ⟨fetch.purpose, .failed .timeout⟩
    (Reached x past ∧ Outstanding past 0 fetch ∧ c.view.topology = "a -> b") ∧
      d = { c with
            inFlight := d.inFlight
            topologyInFlight := d.topologyInFlight
            lastFailure := d.lastFailure
            view := { c.view with isLoading := d.view.isLoading, empty := d.view.empty } } ∧
        (fetch.purpose = .sorting → d.view.isLoading = c.view.isLoading) ∧
        (fetch.purpose ≠ .diagrams → d.view.empty = c.view.empty) := by
  intro events x past fetch c d
  have h : Reached x past := .after default 300 .combine events
  have hopen : Outstanding past 0 fetch := by
    refine ⟨(h.course.accounted.issued _ _).mpr rfl, fun completion happlied => ?_⟩
    exact absurd (mem_appliedNumbers.mpr ⟨completion, happlied⟩) (by decide)
  exact ⟨⟨h, hopen, rfl⟩, failure_keeps_display h hopen rfl⟩

end Exchange

end ProfileBrowser
