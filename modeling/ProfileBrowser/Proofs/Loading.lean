import ProfileBrowser.Proofs.Intakes
import ProfileBrowser.Proofs.Rest
/-!
# The mark of loading

The mark of loading is set where table and flame graph or the call graph are requested, and cleared
where a completion of either is applied, be it late and for a context that has been replaced. It does
not count: a completion clears it while another request is still on its way. What it means is told by
the history alone. It is on if the last thing that happened to such a request is its issue, and rows in
an order have nothing to do with it (`loading_iff_issued_last`).
-/

namespace ProfileBrowser

/-- Asking for the call graph without a request changes nothing. -/
theorem Controller.requestTopology_eq_self {c : Controller}
    (h : c.requestTopology.requestsIssued = c.requestsIssued) : c.requestTopology = c := by
  by_cases hmissing : c.TopologyMissing
  · rw [requestTopology_of_missing hmissing] at h
    exact absurd h (Nat.succ_ne_self _)
  · exact requestTopology_of_present hmissing

namespace Exchange

/-! ### What bears on the mark -/

/-- Whether a happening bears on the mark of loading: it is the issue or the completion of a request for
table and flame graph or for the call graph. -/
def Happening.marks : Happening → Bool
  | .issued _ fetch => fetch.purpose ≠ .sorting
  | .applied _ completion => completion.purpose ≠ .sorting
  | _ => false

/-- Whether a happening is the issue of a request. -/
def Happening.isIssue : Happening → Bool
  | .issued _ _ => true
  | _ => false

theorem Happening.isIssue_iff {a : Happening} :
    a.isIssue ↔ ∃ number fetch, a = .issued number fetch := by
  cases a <;> simp [isIssue]

/-- What happened last among what bears on the mark. -/
def lastMarking (past : List Happening) : Option Happening := past.find? Happening.marks

/-- What does not bear on the mark leaves the last as it was. -/
theorem lastMarking_append {news : List Happening} (h : ∀ a ∈ news, ¬ a.marks)
    (past : List Happening) : lastMarking (news ++ past) = lastMarking past := by
  rw [lastMarking, List.find?_append, List.find?_eq_none.mpr h, Option.none_or, lastMarking]

variable {x : Exchange} {past : List Happening}

/-- **The mark is on if a request has been issued last.** -/
theorem Course.isLoading_eq (h : Course x past) :
    x.controller.view.isLoading = (lastMarking past).any Happening.isIssue := by
  induction h with
  | start => rfl
  | @step x _ past _ hx hs ih =>
    cases hs with
    | wait | look | turn | trigger | replace | sort => exact ih
    | fetch => rfl
    | ask htopology hflight =>
      rw [Controller.requestTopology_of_missing ⟨htopology, hflight⟩]
      rfl
    | answer =>
      rw [answer_controller]
      exact ih
    | @deliver number completion rest hqueued =>
      rw [deliver_controller hqueued, Controller.apply_isLoading, ih]
      obtain ⟨purpose, outcome⟩ := completion
      cases purpose with
      | sorting => rfl
      | diagrams | topology => rfl

/-! ### What leaves the mark alone -/

/-- Without a poll the mark is set by the request for the call graph and by nothing else. -/
theorem handle_isLoading (x : Exchange) {e : Event} (hpoll : e ≠ .poll)
    (hmode : ∀ mode, e = .setMode mode →
      (x.handle e).controller.requestsIssued = x.controller.requestsIssued) :
    (x.handle e).controller.view.isLoading = x.controller.view.isLoading := by
  cases e with
  | poll => exact absurd rfl hpoll
  | setParams | setRange | refresh | sortBy | highlight | setFilter | toggleDirection | advance => rfl
  | answer number outcome => rw [handle, answer_controller]
  | setMode mode =>
    have hnothing := hmode mode rfl
    rw [handle, Controller.setMode] at hnothing ⊢
    split_ifs at hnothing ⊢
    · rfl
    · have hself : (x.controller.turned mode).requestTopology = x.controller.turned mode :=
        Controller.requestTopology_eq_self hnothing
      exact congrArg (·.view.isLoading) hself
    · rfl

/-! ### The meaning of the mark -/

/-- **The mark of loading is on if a request was issued last.** In every state that steps lead to, so
between two events of a run, inside a poll and inside the settling loop:
* the mark is on if and only if the last issue or completion of a request for table and flame graph or
  for the call graph is an issue, be the completion for a context that has been replaced;
* an event at which nothing of the kind happens leaves it alone, so does every event but a poll and a
  switch of the mode that issues a request, and so does the completion of a request for rows in an
  order;
* it is off while no request but those for rows is outstanding. -/
theorem loading_iff_issued_last (h : Course x past) :
    let c := x.controller
    (c.view.isLoading ↔
      ∃ number fetch, past.find? Happening.marks = some (.issued number fetch)) ∧
    ((∀ e, (∀ a ∈ x.happenings e, ¬ a.marks) →
        (x.handle e).controller.view.isLoading = c.view.isLoading) ∧
      (∀ e, e ≠ .poll →
        (∀ mode, e = .setMode mode → (x.handle e).controller.requestsIssued = c.requestsIssued) →
        (x.handle e).controller.view.isLoading = c.view.isLoading) ∧
      ∀ completion, completion.purpose = .sorting →
        (c.apply completion).view.isLoading = c.view.isLoading) ∧
    ((∀ number fetch, Outstanding past number fetch → fetch.purpose = .sorting) →
      c.view.isLoading = false) := by
  intro c
  refine ⟨?_, ⟨fun e hquiet => ?_, fun e hpoll hmode => x.handle_isLoading hpoll hmode,
    fun completion hsorting => ?_⟩, fun hrows => ?_⟩
  · rw [h.isLoading_eq, Option.any_eq_true]
    constructor
    · rintro ⟨a, hlast, hissue⟩
      obtain ⟨number, fetch, rfl⟩ := Happening.isIssue_iff.mp hissue
      exact ⟨number, fetch, hlast⟩
    · rintro ⟨number, fetch, hlast⟩
      exact ⟨_, hlast, rfl⟩
  · rw [(h.steps (h.handle_steps e)).isLoading_eq, lastMarking_append hquiet, h.isLoading_eq]
  · rw [Controller.apply_isLoading, hsorting]
    rfl
  · by_contra hon
    obtain ⟨number, fetch, hopen, hpurpose⟩ := h.outstanding_of_loading (by simpa using hon)
    exact hpurpose (hrows number fetch hopen)

/-- The call graph of a context that has been replaced comes while table and flame graph are on their
way, and rows are asked for after it: the mark is off. -/
theorem loading_cleared_by_late_call_graph :
    let events : List Event := [.setMode .topo, .advance 300, .poll, .setParams .empty,
      .answer 0 (.data { callGraph := some (.str "a -> b") }), .poll, .sortBy "name"]
    let x := (Exchange.new default 300 .combine).run events
    let past := history (.new default 300 .combine) events ++ [.triggered 0]
    let c := x.controller
    (Course x past ∧ past.find? Happening.marks =
        some (.applied 0 ⟨.topology 0, .data { callGraph := some (.str "a -> b") }⟩) ∧
      c.inFlight = 2) ∧
    (c.view.isLoading ↔
      ∃ number fetch, past.find? Happening.marks = some (.issued number fetch)) ∧
    ((∀ e, (∀ a ∈ x.happenings e, ¬ a.marks) →
        (x.handle e).controller.view.isLoading = c.view.isLoading) ∧
      (∀ e, e ≠ .poll →
        (∀ mode, e = .setMode mode → (x.handle e).controller.requestsIssued = c.requestsIssued) →
        (x.handle e).controller.view.isLoading = c.view.isLoading) ∧
      ∀ completion, completion.purpose = .sorting →
        (c.apply completion).view.isLoading = c.view.isLoading) ∧
    ((∀ number fetch, Outstanding past number fetch → fetch.purpose = .sorting) →
      c.view.isLoading = false) := by
  intro events x past c
  have h : Course x past := course_run default 300 .combine events
  exact ⟨⟨h, rfl, rfl⟩, loading_iff_issued_last h⟩

end Exchange

end ProfileBrowser
