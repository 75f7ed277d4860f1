import ProfileBrowser.Proofs.CallGraph
/-!
# On the way and at rest

What is in flight is what waits in the queue and what has no answer yet (`Accounted.inFlight_eq`). The
mark of loading stands for a request for something other than rows in an order that is still
outstanding (`Course.outstanding_of_loading`); so with nothing in flight it is off
(`Course.not_loading`).
-/

namespace ProfileBrowser

/-- Only the sorting of rows leaves the mark of loading alone. -/
theorem Controller.apply_isLoading (c : Controller) (completion : Completion) :
    (c.apply completion).view.isLoading =
      (completion.purpose = .sorting && c.view.isLoading) := by
  obtain ⟨purpose, outcome⟩ := completion
  cases purpose with
  | diagrams => cases outcome <;> rfl
  | sorting => cases outcome <;> rfl
  | topology generation =>
    simp only [apply, applyTopology]
    cases outcome <;> split_ifs <;> rfl

namespace Exchange

variable {x : Exchange} {past : List Happening}

/-! ### What is in flight -/

/-- What is in flight has not been answered, or its completion waits in the queue. -/
theorem Accounted.inFlight_eq (h : Accounted x past) (hroom : x.arrived.length ≤ x.answered.length) :
    x.controller.inFlight + x.answered.length =
      x.controller.requestsIssued + x.arrived.length := by
  have hin := h.inFlight
  rw [h.applied, List.length_drop] at hin
  omega

/-- What waits in the queue is in flight. -/
theorem Course.arrived_le (h : Course x past) : x.arrived.length ≤ x.controller.inFlight := by
  have heq := h.accounted.inFlight_eq h.room
  have hle := h.accounted.answered_length_le
  omega

/-- With every request answered, nothing else is. -/
theorem Course.inFlight_of_answered (h : Course x past)
    (hall : ∀ number < x.controller.requestsIssued, number ∈ x.answered) :
    x.controller.inFlight = x.arrived.length := by
  have heq := h.accounted.inFlight_eq h.room
  have hle := h.accounted.answered_length_le
  have hsub : List.range x.controller.requestsIssued ⊆ x.answered := fun number hmem =>
    hall number (List.mem_range.mp hmem)
  have hge := List.nodup_range.length_le_of_subset hsub
  rw [List.length_range] at hge
  omega

/-- With nothing in flight every request has been answered. -/
theorem Course.answered_of_rest (h : Course x past) (hrest : x.controller.inFlight = 0)
    {number : Nat} (hlt : number < x.controller.requestsIssued) : number ∈ x.answered := by
  obtain ⟨completion, happlied⟩ := h.accounted.all_applied hrest hlt
  have hmem := mem_appliedNumbers.mpr ⟨completion, happlied⟩
  rw [h.accounted.applied] at hmem
  exact List.mem_of_mem_drop hmem

/-- With nothing in flight nothing is outstanding. -/
theorem Course.not_outstanding (h : Course x past) (hrest : x.controller.inFlight = 0)
    {number : Nat} {fetch : Fetch} : ¬ Outstanding past number fetch := by
  rintro ⟨hissued, hopen⟩
  obtain ⟨completion, happlied⟩ := h.accounted.all_applied hrest (h.accounted.lt_of_issued hissued)
  exact hopen completion happlied

/-! ### Loading -/

/-- **While something is marked as loading, it is on its way.** -/
theorem Course.outstanding_of_loading (h : Course x past)
    (hloading : x.controller.view.isLoading) :
    ∃ number fetch, Outstanding past number fetch ∧ fetch.purpose ≠ .sorting := by
  induction h with
  | start => cases hloading
  | @step x _ past _ hx hs ih =>
    cases hs with
    | wait | look | turn => exact ih hloading
    | trigger | replace | sort =>
      obtain ⟨number, fetch, hopen, hpurpose⟩ := ih hloading
      exact ⟨number, fetch, hopen.append (by simp), hpurpose⟩
    | ask | fetch =>
      refine ⟨_, _, ⟨List.mem_cons_self, fun completion happlied => ?_⟩, nofun⟩
      exact hx.accounted.not_applied_next completion (by simpa using happlied)
    | answer =>
      rw [answer_controller] at hloading
      exact ih hloading
    | @deliver n completion rest hqueued =>
      rw [deliver_controller hqueued, Controller.apply_isLoading, Bool.and_eq_true,
        decide_eq_true_eq] at hloading
      obtain ⟨hsorting, hbefore⟩ := hloading
      obtain ⟨number, fetch, hopen, hpurpose⟩ := ih hbefore
      refine ⟨number, fetch, hopen.append fun c happlied => ?_, hpurpose⟩
      -- the completion is for rows, so it belongs to another request
      cases List.mem_singleton.mp happlied
      obtain ⟨f, hf, hfor⟩ := hx.outstanding_of_queued hqueued
      obtain rfl := hx.accounted.eq_of_issued hopen.1 hf.1
      exact hpurpose (hfor.trans hsorting)

/-- **At rest nothing is marked as loading.** -/
theorem Course.not_loading (h : Course x past) (hrest : x.controller.inFlight = 0) :
    x.controller.view.isLoading = false := by
  by_contra hloading
  obtain ⟨number, fetch, hopen, -⟩ := h.outstanding_of_loading (by simpa using hloading)
  exact h.not_outstanding hrest hopen

end Exchange

end ProfileBrowser
