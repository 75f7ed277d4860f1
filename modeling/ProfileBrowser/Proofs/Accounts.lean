import ProfileBrowser.Proofs.Runs
import Mathlib.Data.List.Perm.Subperm
/-!
# Requests and their completions

The ledger numbers the requests, the backend answers each at most once, and a completion is applied
after it has waited in the queue. `Accounted` ties the three together with the history: what the
history calls issued is what stands in the ledger, what it calls applied is what has left the queue,
and a completion is for what its request was for. It holds along every course
(`Course.accounted`), so a request that is neither outstanding nor answered does not exist, and a
controller with nothing in flight has had every answer (`Accounted.all_applied`).
-/

namespace ProfileBrowser.Exchange

/-- The number of a request whose completion is applied. -/
def Happening.appliedNumber? : Happening → Option Nat
  | .applied number _ => some number
  | _ => none

/-- The numbers of the requests whose completions have been applied, the last first. -/
def appliedNumbers (past : List Happening) : List Nat :=
  past.filterMap Happening.appliedNumber?

theorem mem_appliedNumbers {past : List Happening} {number : Nat} :
    number ∈ appliedNumbers past ↔ ∃ completion, .applied number completion ∈ past := by
  simp only [appliedNumbers, List.mem_filterMap]
  constructor
  · rintro ⟨h, hmem, hnumber⟩
    cases h with
    | applied n completion =>
      simp only [Happening.appliedNumber?, Option.some.injEq] at hnumber
      exact ⟨completion, hnumber ▸ hmem⟩
    | triggered | replaced | issued => cases hnumber
  · rintro ⟨completion, hmem⟩
    exact ⟨_, hmem, rfl⟩

/-- What has been issued, answered and applied agrees with the history. -/
structure Accounted (x : Exchange) (past : List Happening) : Prop where
  /-- The requests of the history are those of the ledger. -/
  issued : ∀ number fetch, .issued number fetch ∈ past ↔ x.fetch? number = some fetch
  /-- The completions that have been applied are those that have left the queue. -/
  applied : appliedNumbers past = x.answered.drop x.arrived.length
  /-- A completion that has been applied is for what its request was for. -/
  purpose : ∀ number completion, .applied number completion ∈ past →
    ∃ fetch, .issued number fetch ∈ past ∧ fetch.purpose = completion.purpose
  /-- So is one that waits. -/
  waiting : ∀ number completion, (number, completion) ∈ x.queued →
    ∃ fetch, .issued number fetch ∈ past ∧ fetch.purpose = completion.purpose
  /-- No request is answered twice. -/
  distinct : x.answered.Nodup
  /-- Only issued requests are answered. -/
  known : ∀ number ∈ x.answered, number < x.controller.requestsIssued
  /-- What is in flight has not been applied. -/
  inFlight : x.controller.inFlight + (appliedNumbers past).length = x.controller.requestsIssued

theorem fetch?_cons {x y : Exchange} {fetch : Fetch}
    (h : y.controller.ledger = fetch :: x.controller.ledger) (number : Nat) (f : Fetch) :
    y.fetch? number = some f ↔
      (number = x.controller.requestsIssued ∧ fetch = f) ∨ x.fetch? number = some f := by
  simp only [fetch?, h, List.reverse_cons, Controller.requestsIssued]
  rcases Nat.lt_trichotomy number x.controller.ledger.length with hlt | heq | hgt
  · rw [List.getElem?_append_left (by simpa using hlt)]
    simp [Nat.ne_of_lt hlt]
  · subst heq
    simp
  · rw [List.getElem?_eq_none (by simp; omega), List.getElem?_eq_none (by simp; omega)]
    simp [Nat.ne_of_gt hgt]

theorem lt_of_fetch? {x : Exchange} {number : Nat} {fetch : Fetch}
    (h : x.fetch? number = some fetch) : number < x.controller.requestsIssued := by
  simpa [Controller.requestsIssued] using (List.getElem?_eq_some_iff.mp h).1

namespace Accounted

variable {x y : Exchange} {past news : List Happening}

/-! ### What follows from the accounts -/

theorem lt_of_issued (h : Accounted x past) {number : Nat} {fetch : Fetch}
    (hissued : .issued number fetch ∈ past) : number < x.controller.requestsIssued :=
  lt_of_fetch? ((h.issued _ _).mp hissued)

/-- A number names one request. -/
theorem eq_of_issued (h : Accounted x past) {number : Nat} {f g : Fetch}
    (hf : .issued number f ∈ past) (hg : .issued number g ∈ past) : f = g := by
  have hfg := ((h.issued _ _).mp hf).symm.trans ((h.issued _ _).mp hg)
  exact Option.some.inj hfg

/-- A number that has not been used yet names no completion. -/
theorem not_applied_next (h : Accounted x past) (completion : Completion) :
    .applied x.controller.requestsIssued completion ∉ past := by
  intro happlied
  obtain ⟨fetch, hissued, -⟩ := h.purpose _ _ happlied
  exact Nat.lt_irrefl _ (h.lt_of_issued hissued)

/-- A completion that waits has not been applied. -/
theorem not_applied_queued (h : Accounted x past) {number : Nat} {completion : Completion}
    {rest : List (Nat × Completion)} (hqueued : x.queued = (number, completion) :: rest)
    (c : Completion) : .applied number c ∉ past := by
  intro happlied
  have hdrop : number ∈ x.answered.drop x.arrived.length := by
    rw [← h.applied]
    exact mem_appliedNumbers.mpr ⟨c, happlied⟩
  have htake : number ∈ x.answered.take x.arrived.length := by
    have hmem : (number, completion) ∈ x.queued := by rw [hqueued]; exact List.mem_cons_self
    exact List.mem_reverse.mp (List.of_mem_zip hmem).1
  have hdistinct := h.distinct
  rw [← List.take_append_drop x.arrived.length x.answered, List.nodup_append] at hdistinct
  exact hdistinct.2.2 _ htake _ hdrop rfl

theorem answered_length_le (h : Accounted x past) :
    x.answered.length ≤ x.controller.requestsIssued := by
  have hsub : x.answered ⊆ List.range x.controller.requestsIssued := fun n hn =>
    List.mem_range.mpr (h.known n hn)
  simpa using (List.Nodup.subperm h.distinct hsub).length_le

/-- No completion is applied twice. -/
theorem nodup_appliedNumbers (h : Accounted x past) : (appliedNumbers past).Nodup := by
  rw [h.applied]
  exact h.distinct.sublist (List.drop_sublist _ _)

/-- **With nothing in flight every completion has been applied.** -/
theorem all_applied (h : Accounted x past) (hrest : x.controller.inFlight = 0) {number : Nat}
    (hlt : number < x.controller.requestsIssued) :
    ∃ completion, .applied number completion ∈ past := by
  have hsub : appliedNumbers past ⊆ List.range x.controller.requestsIssued := by
    intro n hn
    rw [h.applied] at hn
    exact List.mem_range.mpr (h.known n (List.mem_of_mem_drop hn))
  have hlength : (List.range x.controller.requestsIssued).length ≤ (appliedNumbers past).length := by
    have := h.inFlight
    rw [List.length_range]
    omega
  have hperm := (h.nodup_appliedNumbers.subperm hsub).perm_of_length_le hlength
  exact mem_appliedNumbers.mp (hperm.mem_iff.mpr (List.mem_range.mpr hlt))

/-! ### The accounts along a course -/

theorem start (context : Context) (quiet : Nat) (mode : Mode) :
    Accounted (.new context quiet mode) [.triggered 0] where
  issued := by simp [fetch?, Exchange.new, Controller.new, Controller.refresh]
  applied := rfl
  purpose := by simp
  waiting := by simp [queued, Exchange.new]
  distinct := List.nodup_nil
  known := by simp [Exchange.new]
  inFlight := rfl

/-- A step that neither issues nor applies anything keeps the accounts. -/
theorem quiet (h : Accounted x past) (hledger : y.controller.ledger = x.controller.ledger)
    (hinFlight : y.controller.inFlight = x.controller.inFlight)
    (hanswered : y.answered = x.answered) (harrived : y.arrived = x.arrived)
    (hissued : ∀ number fetch, .issued number fetch ∉ news)
    (happlied : ∀ number completion, .applied number completion ∉ news) :
    Accounted y (news ++ past) := by
  have hqueued : y.queued = x.queued := by rw [queued, queued, hanswered, harrived]
  have hnumbers : appliedNumbers (news ++ past) = appliedNumbers past := by
    rw [appliedNumbers, appliedNumbers, List.filterMap_append, List.append_left_eq_self,
      List.filterMap_eq_nil_iff]
    intro a ha
    cases a with
    | applied number completion => exact absurd ha (happlied _ _)
    | triggered | replaced | issued => rfl
  constructor
  · intro number fetch
    rw [List.mem_append, or_iff_right (hissued _ _), h.issued, fetch?, fetch?, hledger]
  · rw [hnumbers, h.applied, hanswered, harrived]
  · intro number completion hc
    obtain ⟨fetch, hf, hp⟩ := h.purpose _ _ ((List.mem_append.mp hc).resolve_left (happlied _ _))
    exact ⟨fetch, List.mem_append_right _ hf, hp⟩
  · intro number completion hc
    obtain ⟨fetch, hf, hp⟩ := h.waiting _ _ (hqueued ▸ hc)
    exact ⟨fetch, List.mem_append_right _ hf, hp⟩
  · rw [hanswered]
    exact h.distinct
  · rw [hanswered, Controller.requestsIssued, hledger]
    exact h.known
  · rw [hnumbers, hinFlight, Controller.requestsIssued, hledger]
    exact h.inFlight

/-- A new request takes the next number. -/
theorem issue (h : Accounted x past) {fetch : Fetch}
    (hledger : y.controller.ledger = fetch :: x.controller.ledger)
    (hinFlight : y.controller.inFlight = x.controller.inFlight + 1)
    (hanswered : y.answered = x.answered) (harrived : y.arrived = x.arrived) :
    Accounted y (.issued x.controller.requestsIssued fetch :: past) := by
  have hqueued : y.queued = x.queued := by rw [queued, queued, hanswered, harrived]
  have hcount : y.controller.requestsIssued = x.controller.requestsIssued + 1 := by
    rw [Controller.requestsIssued, hledger]
    rfl
  have hnumbers : appliedNumbers (.issued x.controller.requestsIssued fetch :: past) =
      appliedNumbers past := rfl
  constructor
  · intro number f
    rw [fetch?_cons hledger, ← h.issued, List.mem_cons]
    simp only [Happening.issued.injEq]
    tauto
  · rw [hnumbers, h.applied, hanswered, harrived]
  · intro number completion hc
    obtain ⟨f, hf, hp⟩ := h.purpose number completion (by simpa using hc)
    exact ⟨f, List.mem_cons_of_mem _ hf, hp⟩
  · intro number completion hc
    obtain ⟨f, hf, hp⟩ := h.waiting _ _ (hqueued ▸ hc)
    exact ⟨f, List.mem_cons_of_mem _ hf, hp⟩
  · rw [hanswered]
    exact h.distinct
  · intro number hn
    have := h.known number (hanswered ▸ hn)
    omega
  · have := h.inFlight
    rw [hnumbers]
    omega

/-- An answer puts a completion into the queue. -/
theorem answer (h : Accounted x past) (hroom : x.arrived.length ≤ x.answered.length)
    (number : Nat) (outcome : Outcome) : Accounted (x.answer number fun _ => outcome) past := by
  rcases x.answer_cases number fun _ => outcome with hx | ⟨fetch, hnew, hfetch, hx⟩ <;> rw [hx]
  · exact h
  constructor
  · exact h.issued
  · rw [h.applied]
    simp
  · exact h.purpose
  · intro n completion hc
    rw [queued_concat (x := x) (y := Exchange.mk _ _ _ _) rfl rfl hroom] at hc
    rcases List.mem_append.mp hc with hc | hc
    · exact h.waiting _ _ hc
    · cases List.mem_singleton.mp hc
      exact ⟨fetch, (h.issued _ _).mpr hfetch, rfl⟩
  · exact List.nodup_cons.mpr ⟨hnew, h.distinct⟩
  · intro n hn
    rcases List.mem_cons.mp hn with rfl | hn
    · exact lt_of_fetch? hfetch
    · exact h.known n hn
  · exact h.inFlight

/-- The completion that has waited longest leaves the queue. -/
theorem deliver (h : Accounted x past) (hroom : x.arrived.length ≤ x.answered.length)
    {number : Nat} {completion : Completion} {rest : List (Nat × Completion)}
    (hqueued : x.queued = (number, completion) :: rest) :
    Accounted x.deliver (.applied number completion :: past) := by
  obtain ⟨later, harrived, hdeliver⟩ := deliver_eq hqueued
  rw [harrived, List.length_cons] at hroom
  have hhead := (queued_cons harrived hroom).symm.trans hqueued
  simp only [List.cons.injEq, Prod.mk.injEq] at hhead
  obtain ⟨⟨rfl, -⟩, hrest⟩ := hhead
  have happlied := h.applied
  rw [harrived, List.length_cons] at happlied
  have hfetch : ∀ n, x.deliver.fetch? n = x.fetch? n := by
    intro n
    rw [fetch?, fetch?, deliver_controller hqueued, Controller.apply_ledger]
  have hcount : x.deliver.controller.requestsIssued = x.controller.requestsIssued := by
    unfold Controller.requestsIssued
    rw [deliver_controller hqueued, Controller.apply_ledger]
  have hwaiting := h.waiting
  rw [hqueued] at hwaiting
  constructor
  · intro n f
    rw [hfetch, ← h.issued]
    simp
  · rw [hdeliver]
    simp only [appliedNumbers, List.filterMap_cons, Happening.appliedNumber?]
    rw [List.drop_eq_getElem_cons hroom, ← happlied]
    rfl
  · intro n c hc
    rcases List.mem_cons.mp hc with hc | hc
    · cases hc
      obtain ⟨f, hf, hp⟩ := hwaiting _ _ List.mem_cons_self
      exact ⟨f, List.mem_cons_of_mem _ hf, hp⟩
    · obtain ⟨f, hf, hp⟩ := h.purpose _ _ hc
      exact ⟨f, List.mem_cons_of_mem _ hf, hp⟩
  · intro n c hc
    obtain ⟨f, hf, hp⟩ := hwaiting _ _ (List.mem_cons_of_mem _ (hrest ▸ hc))
    exact ⟨f, List.mem_cons_of_mem _ hf, hp⟩
  · rw [hdeliver]
    exact h.distinct
  · rw [hcount, hdeliver]
    exact h.known
  · have hin := h.inFlight
    have hle := h.answered_length_le
    have hlength : (appliedNumbers past).length + (later.length + 1) = x.answered.length := by
      rw [happlied, List.length_drop]
      omega
    have hnext : (appliedNumbers (.applied x.answered[later.length] completion :: past)).length =
        (appliedNumbers past).length + 1 := rfl
    rw [hcount, hnext, deliver_controller hqueued, Controller.apply_inFlight]
    omega

end Accounted

/-- **The accounts agree along every course.** -/
theorem Course.accounted {x : Exchange} {past : List Happening} (h : Course x past) :
    Accounted x past := by
  induction h with
  | start context quiet mode => exact .start context quiet mode
  | @step x _ past _ hx hs ih =>
    cases hs with
    | wait | look | turn | trigger | replace =>
      exact ih.quiet rfl rfl rfl rfl (by simp) (by simp)
    | sort | fetch => exact ih.issue rfl rfl rfl rfl
    | ask htopology hflight =>
      have hask := Controller.requestTopology_of_missing ⟨htopology, hflight⟩
      exact ih.issue (by rw [hask]; rfl) (by rw [hask]; rfl) rfl rfl
    | answer number outcome => exact ih.answer hx.room number outcome
    | deliver hqueued => exact ih.deliver hx.room hqueued

/-! ### Completions and answers -/

/-- A completion gets into the queue by the answer to its request. -/
theorem Course.queued_handle {x : Exchange} {past : List Happening} (h : Course x past) {e : Event}
    {number : Nat} {completion : Completion} (hmem : (number, completion) ∈ (x.handle e).queued) :
    e = .answer number completion.outcome ∨ (number, completion) ∈ x.queued := by
  cases e with
  | answer n outcome =>
    rw [handle] at hmem
    rcases x.answer_cases n fun _ => outcome with hx | ⟨fetch, -, -, hx⟩ <;> rw [hx] at hmem
    · exact .inr hmem
    · rw [queued_concat (x := x) (y := Exchange.mk _ _ _ _) rfl rfl h.room] at hmem
      rcases List.mem_append.mp hmem with hmem | hmem
      · exact .inr hmem
      · cases List.mem_singleton.mp hmem
        exact .inl rfl
  | poll => simp [queued, handle, poll] at hmem
  | _ => exact .inr hmem

/-- **What is applied has been answered**: every completion that a run applies is one that the
backend gave for the request with that number. -/
theorem Course.answer_of_applied {x : Exchange} {past : List Happening} (h : Course x past)
    {events : List Event} {number : Nat} {completion : Completion}
    (happlied : .applied number completion ∈ x.history events) :
    .answer number completion.outcome ∈ events ∨ (number, completion) ∈ x.queued := by
  induction events generalizing x past with
  | nil => cases happlied
  | cons e events ih =>
    rcases List.mem_append.mp happlied with hlater | hnow
    · rcases ih (h.steps (h.handle_steps e)) hlater with hanswer | hqueued
      · exact .inl (List.mem_cons_of_mem _ hanswer)
      · rcases h.queued_handle hqueued with rfl | hqueued
        · exact .inl List.mem_cons_self
        · exact .inr hqueued
    · exact .inr (queued_of_applied_mem hnow)

theorem answer_of_applied_run {context : Context} {quiet : Nat} {mode : Mode} {events : List Event}
    {number : Nat} {completion : Completion}
    (h : .applied number completion ∈ history (.new context quiet mode) events ++ [.triggered 0]) :
    .answer number completion.outcome ∈ events := by
  have happlied : .applied number completion ∈ history (.new context quiet mode) events := by
    simpa using h
  rcases (Course.start context quiet mode).answer_of_applied happlied with hanswer | hqueued
  · exact hanswer
  · cases hqueued

end ProfileBrowser.Exchange
