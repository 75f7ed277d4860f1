import ProfileBrowser.Proofs.Intakes
import ProfileBrowser.Proofs.Rest
import Mathlib.Data.List.Nodup
/-!
# What is in flight

The count of what is in flight goes up where a request is written into the ledger and down where a
completion is applied, far from each other and cut off at zero. It is exact all the same: in every
state it is the number of requests that have been issued and whose completions have not been applied
(`in_flight_exact`). Everything rests on two facts about a course. A request is issued under the number
that comes next (`Course.issuedNumbers_eq`), and a completion is applied once and only for an issued
request (`Accounted`).
-/

namespace ProfileBrowser.Exchange

/-! ### Numbers in a history -/

/-- The number under which a request is issued. -/
def Happening.issuedNumber? : Happening → Option Nat
  | .issued number _ => some number
  | _ => none

/-- The numbers of the requests that have been issued, the last first. -/
def issuedNumbers (past : List Happening) : List Nat :=
  past.filterMap Happening.issuedNumber?

/-- The numbers of the requests that have been issued and whose completions have not been applied. -/
def openNumbers (past : List Happening) : List Nat :=
  (issuedNumbers past).filter fun number => number ∉ appliedNumbers past

theorem issuedNumbers_append (news past : List Happening) :
    issuedNumbers (news ++ past) = issuedNumbers news ++ issuedNumbers past :=
  List.filterMap_append ..

theorem appliedNumbers_append (news past : List Happening) :
    appliedNumbers (news ++ past) = appliedNumbers news ++ appliedNumbers past :=
  List.filterMap_append ..

theorem mem_issuedNumbers {past : List Happening} {number : Nat} :
    number ∈ issuedNumbers past ↔ ∃ fetch, .issued number fetch ∈ past := by
  simp only [issuedNumbers, List.mem_filterMap]
  constructor
  · rintro ⟨h, hmem, hnumber⟩
    cases h with
    | issued n fetch =>
      simp only [Happening.issuedNumber?, Option.some.injEq] at hnumber
      exact ⟨fetch, hnumber ▸ hmem⟩
    | triggered | replaced | applied => cases hnumber
  · rintro ⟨fetch, hmem⟩
    exact ⟨_, hmem, rfl⟩

variable {x y : Exchange} {past : List Happening}

/-- The next number is the count of those that have been used. -/
theorem range_of_issue (fetch : Fetch) (h : y.controller.ledger = fetch :: x.controller.ledger) :
    issuedNumbers [.issued x.controller.requestsIssued fetch] ++
        (List.range x.controller.requestsIssued).reverse =
      (List.range y.controller.requestsIssued).reverse := by
  have hcount : y.controller.requestsIssued = x.controller.requestsIssued + 1 := by
    rw [Controller.requestsIssued, h]
    rfl
  rw [hcount, List.range_succ, List.reverse_append]
  rfl

/-- **Requests are numbered in the order of their issue**, each number once. -/
theorem Course.issuedNumbers_eq (h : Course x past) :
    issuedNumbers past = (List.range x.controller.requestsIssued).reverse := by
  induction h with
  | start => rfl
  | @step x y past news hx hs ih =>
    rw [issuedNumbers_append, ih]
    cases hs with
    | wait | look | turn | trigger | replace => rfl
    | sort | fetch => exact range_of_issue _ rfl
    | ask htopology hflight =>
      refine range_of_issue _ ?_
      rw [Controller.requestTopology_of_missing ⟨htopology, hflight⟩]
      rfl
    | answer =>
      rw [answer_controller]
      rfl
    | deliver hqueued =>
      rw [deliver_controller hqueued, Controller.requestsIssued, Controller.requestsIssued,
        Controller.apply_ledger]
      rfl

theorem Course.nodup_issuedNumbers (h : Course x past) : (issuedNumbers past).Nodup := by
  rw [h.issuedNumbers_eq, List.nodup_reverse]
  exact List.nodup_range

/-! ### Counting -/

/-- Only issued requests have completions. -/
theorem Accounted.appliedNumbers_subset (h : Accounted x past) :
    appliedNumbers past ⊆ issuedNumbers past := by
  intro number hmem
  obtain ⟨completion, happlied⟩ := mem_appliedNumbers.mp hmem
  obtain ⟨fetch, hissued, -⟩ := h.purpose _ _ happlied
  exact mem_issuedNumbers.mpr ⟨fetch, hissued⟩

/-- A request that has been issued is open or has been applied, and not both. -/
theorem Course.open_add_applied (h : Course x past) :
    (openNumbers past).length + (appliedNumbers past).length = (issuedNumbers past).length := by
  have hdone : ((issuedNumbers past).filter fun number => number ∈ appliedNumbers past).Perm
      (appliedNumbers past) := by
    refine (List.perm_ext_iff_of_nodup (h.nodup_issuedNumbers.filter _)
      h.accounted.nodup_appliedNumbers).mpr fun number => ?_
    rw [List.mem_filter, decide_eq_true_eq]
    exact ⟨And.right, fun hmem => ⟨h.accounted.appliedNumbers_subset hmem, hmem⟩⟩
  have hsplit := List.length_eq_length_filter_add (l := issuedNumbers past)
    fun number => decide (number ∈ appliedNumbers past)
  rw [hdone.length_eq] at hsplit
  simp only [openNumbers, decide_not]
  omega

/-! ### The count is exact -/

theorem Course.length_issuedNumbers (h : Course x past) :
    (issuedNumbers past).length = x.controller.requestsIssued := by
  rw [h.issuedNumbers_eq, List.length_reverse, List.length_range]

/-- What is in flight is what is open. -/
theorem Course.inFlight_eq (h : Course x past) :
    x.controller.inFlight = (openNumbers past).length := by
  have hflight := h.accounted.inFlight
  have hopen := h.open_add_applied
  rw [h.length_issuedNumbers] at hopen
  omega

theorem Course.requestsIssued_handle (h : Course x past) (e : Event) :
    (x.handle e).controller.requestsIssued =
      x.controller.requestsIssued + (issuedNumbers (x.happenings e)).length := by
  have hnext := h.steps (h.handle_steps e)
  rw [← hnext.length_issuedNumbers, ← h.length_issuedNumbers, issuedNumbers_append,
    List.length_append, Nat.add_comm]

/-- What an event issues comes on top of the count, and what it applies goes off it. -/
theorem Course.inFlight_handle (h : Course x past) (e : Event) :
    (x.handle e).controller.inFlight + (appliedNumbers (x.happenings e)).length =
      x.controller.inFlight + (issuedNumbers (x.happenings e)).length := by
  have hbefore := h.accounted.inFlight
  have hafter := (h.steps (h.handle_steps e)).accounted.inFlight
  have hissued := h.requestsIssued_handle e
  rw [appliedNumbers_append, List.length_append] at hafter
  omega

/-- A completion takes one off the count, which is not zero while any waits. -/
theorem Course.inFlight_apply (h : Course x past) {completion : Completion}
    {rest : List Completion} (harrived : x.arrived = completion :: rest) :
    (x.controller.apply completion).inFlight + 1 = x.controller.inFlight := by
  have hle := h.arrived_le
  rw [harrived, List.length_cons] at hle
  rw [Controller.apply_inFlight]
  omega

/-- **The count of what is in flight is exact.** In every state that steps lead to, so between two
events of a run, inside a poll and inside the settling loop:
* it is the number of requests that have been issued and whose completions have not been applied;
* with the number of completions that have been applied it makes up the number of issued requests, each
  request being issued once and each completion applied once and for an issued request;
* a completion that is applied next, whatever it is for and whatever its outcome, takes one off it, so
  the count is not zero then;
* an event changes it by what it issues and applies and by nothing else. -/
theorem in_flight_exact (h : Course x past) :
    let c := x.controller
    c.inFlight = (openNumbers past).length ∧
    (c.requestsIssued = c.inFlight + (appliedNumbers past).length ∧
      c.requestsIssued = (issuedNumbers past).length ∧ (issuedNumbers past).Nodup ∧
      (appliedNumbers past).Nodup ∧ appliedNumbers past ⊆ issuedNumbers past) ∧
    (∀ completion rest, x.arrived = completion :: rest →
      (c.apply completion).inFlight + 1 = c.inFlight ∧
        (c.apply completion).requestsIssued = c.requestsIssued) ∧
    ∀ e, (x.handle e).controller.inFlight + (appliedNumbers (x.happenings e)).length =
        c.inFlight + (issuedNumbers (x.happenings e)).length ∧
      (x.handle e).controller.requestsIssued =
        c.requestsIssued + (issuedNumbers (x.happenings e)).length := by
  intro c
  refine ⟨h.inFlight_eq, ⟨?_, h.length_issuedNumbers.symm, h.nodup_issuedNumbers,
    h.accounted.nodup_appliedNumbers, h.accounted.appliedNumbers_subset⟩,
    fun completion rest harrived => ⟨h.inFlight_apply harrived, ?_⟩,
    fun e => ⟨h.inFlight_handle e, h.requestsIssued_handle e⟩⟩
  · exact h.accounted.inFlight.symm
  · rw [Controller.requestsIssued, Controller.apply_ledger]
    rfl

/-- One completion into a poll: the query for the call graph of a context that has been replaced since
has panicked, and rows that could not be sorted come next. -/
theorem in_flight_after_panic :
    let events : List Event := [.setMode .topo, .advance 300, .poll, .sortBy "-self",
      .answer 0 (.failed (.task "panicked")), .setParams .empty, .answer 2 (.failed .timeout)]
    let x := ((Exchange.new default 300 .combine).run events).amid 1
    let past := ((Exchange.new default 300 .combine).run events).happeningsAmid 1 ++
      (history (.new default 300 .combine) events ++ [.triggered 0])
    let c := x.controller
    (Course x past ∧ c.inFlight = 2 ∧ openNumbers past = [2, 1] ∧
        x.arrived = [⟨.sorting, .failed .timeout⟩]) ∧
      c.inFlight = (openNumbers past).length ∧
      (c.requestsIssued = c.inFlight + (appliedNumbers past).length ∧
        c.requestsIssued = (issuedNumbers past).length ∧ (issuedNumbers past).Nodup ∧
        (appliedNumbers past).Nodup ∧ appliedNumbers past ⊆ issuedNumbers past) ∧
      (∀ completion rest, x.arrived = completion :: rest →
        (c.apply completion).inFlight + 1 = c.inFlight ∧
          (c.apply completion).requestsIssued = c.requestsIssued) ∧
      ∀ e, (x.handle e).controller.inFlight + (appliedNumbers (x.happenings e)).length =
          c.inFlight + (issuedNumbers (x.happenings e)).length ∧
        (x.handle e).controller.requestsIssued =
          c.requestsIssued + (issuedNumbers (x.happenings e)).length := by
  intro events x past c
  have h : Course x past := (Reached.amid default 300 .combine events 1).course
  exact ⟨⟨h, rfl, rfl, rfl⟩, in_flight_exact h⟩

end ProfileBrowser.Exchange
