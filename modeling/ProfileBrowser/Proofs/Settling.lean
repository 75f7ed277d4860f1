import ProfileBrowser.Proofs.Refresh
import ProfileBrowser.Proofs.Rest
/-!
# The settling loop

`Exchange.settle` lets everything come to rest at once. The controller does so in a loop: it polls,
and then waits for a completion if something is in flight, for the deadline if something is pending,
and is done otherwise. Between two turns of the loop the backend may answer and the clock runs
(`Settling.Move`), in any order; a fair trace is one in which neither the loop nor the backend nor the
clock stops for good (`Settling.Fair`).

## What is proved

* `Sound.remaining_lt` and `Unturned.remaining_le` — every turn uses up some of what remains to be done,
  and nothing else adds to it. What remains is counted from the pending refresh, from what is in flight
  and from the stage of the loop.
* `Fair.exists_turn` — a loop that is not done turns once more: a completion that it waits for arrives,
  as the count of what is in flight is exact, and a deadline that it waits for comes.
* `Fair.exists_done` — so every fair trace comes to the end of the loop.
* `Since.move` — on the way table and flame graph are fetched once, if their fetch was pending at the
  start, and with them the call graph at most; without it nothing is fetched.
-/

namespace ProfileBrowser

/-! ### What fires -/

namespace Controller

theorem requestTopology_ledger_cases (c : Controller) :
    c.requestTopology.ledger = c.ledger ∨
      c.requestTopology.ledger = c.context.graphFetch c.generation :: c.ledger := by
  by_cases h : c.TopologyMissing
  · rw [requestTopology_of_missing h]
    exact .inr rfl
  · rw [requestTopology_of_present h]
    exact .inl rfl

/-- Table and flame graph have been fetched once, and the call graph at most and only in its mode;
nothing else has. -/
def FetchedOnce (c d : Controller) : Prop :=
  ∃ graph, d.ledger = graph ++ c.context.chartsFetch :: c.ledger ∧
    (graph = [] ∨ c.view.mode = .topo ∧ graph = [c.context.graphFetch c.generation])

theorem FetchedOnce.requestsIssued_eq {c d : Controller} (h : c.FetchedOnce d) :
    d.requestsIssued = c.requestsIssued + 1 ∨ d.requestsIssued = c.requestsIssued + 2 := by
  obtain ⟨graph, hledger, rfl | ⟨-, rfl⟩⟩ := h
  · exact .inl (congrArg List.length hledger)
  · exact .inr (congrArg List.length hledger)

theorem fetchDiagrams_fetchedOnce (c : Controller) : FetchedOnce c c.fetchDiagrams := by
  by_cases hmode : c.view.mode = .topo
  · rw [fetchDiagrams_topo hmode]
    rcases c.fetchCharts.requestTopology_ledger_cases with h | h
    · exact ⟨[], h, .inl rfl⟩
    · exact ⟨[c.context.graphFetch c.generation], h, .inr ⟨hmode, rfl⟩⟩
  · rw [fetchDiagrams_other hmode]
    exact ⟨[], rfl, .inl rfl⟩

theorem fetchDiagrams_debouncer (c : Controller) : c.fetchDiagrams.debouncer = c.debouncer := by
  by_cases hmode : c.view.mode = .topo
  · rw [fetchDiagrams_topo hmode, requestTopology_debouncer]
    rfl
  · rw [fetchDiagrams_other hmode]
    rfl

end Controller

namespace Exchange

variable {x y : Exchange} {past : List Happening}

theorem Course.nextDeadline (h : Course x past) :
    x.controller.debouncer.nextDeadline =
      (awaited past).map (· + x.controller.debouncer.quiet) := by
  rw [Debouncer.nextDeadline, h.pending]
  cases awaited past <;> rfl

/-- A refresh is pending as long as there is a deadline. -/
theorem Course.refreshPending_eq (h : Course x past) :
    x.controller.refreshPending = x.controller.debouncer.nextDeadline.isSome := by
  rw [h.refreshPending, h.nextDeadline, Option.isSome_map]

/-- Whether the deadline of what is pending has come. -/
def isDue (x : Exchange) : Bool := x.controller.debouncer.nextDeadline.any (· ≤ x.now)

theorem isDue_of_deadline {deadline : Nat}
    (h : x.controller.debouncer.nextDeadline = some deadline) (hdue : deadline ≤ x.now) :
    x.isDue := by
  rw [isDue, h]
  exact decide_eq_true hdue

/-- What is due remains so. -/
theorem isDue_of_later (h : y.controller = x.controller) (hnow : x.now ≤ y.now) (hdue : x.isDue) :
    y.isDue := by
  obtain ⟨deadline, hpending, hle⟩ := (Option.any_eq_true _ _).mp hdue
  exact isDue_of_deadline (h ▸ hpending) (Nat.le_trans (of_decide_eq_true hle) hnow)

/-- **What is due is fired**; then nothing is pending any more. -/
theorem Course.fire_of_isDue (h : Course x past) (hdue : x.isDue) :
    x.controller.refreshPending ∧ x.controller.FetchedOnce x.fire.controller ∧
      x.fire.controller.debouncer.nextDeadline = none := by
  rw [isDue, h.nextDeadline] at hdue
  cases hawaited : awaited past with
  | none => simp [hawaited] at hdue
  | some time =>
    have hfire := h.fire_of_due hawaited (by simpa [hawaited] using hdue)
    refine ⟨by rw [h.refreshPending, hawaited]; rfl, ?_, ?_⟩
    · rw [hfire]
      exact x.controller.unscheduled.fetchDiagrams_fetchedOnce
    · rw [hfire, Controller.fetchDiagrams_debouncer]
      rfl

/-- With nothing due nothing is fired. -/
theorem Course.fire_of_not_isDue (h : Course x past) (hdue : ¬ x.isDue) : x.fire = x := by
  refine h.fire_of_early fun time hawaited => Nat.lt_of_not_le fun hle => hdue ?_
  exact isDue_of_deadline (by rw [h.nextDeadline, hawaited]; rfl) hle

/-- What is issued is in flight, as nothing is answered or applied meanwhile. -/
theorem Course.fire_inFlight_le (h : Course x past) (hdue : x.isDue) :
    x.fire.controller.inFlight ≤ x.controller.inFlight + 2 := by
  obtain ⟨-, hfetched, -⟩ := h.fire_of_isDue hdue
  have hfire := h.steps h.fire_steps
  have hbefore := h.accounted.inFlight_eq h.room
  have hafter : x.fire.controller.inFlight + x.answered.length =
      x.fire.controller.requestsIssued + x.arrived.length := hfire.accounted.inFlight_eq hfire.room
  rcases hfetched.requestsIssued_eq with hissued | hissued <;> omega

/-! ### One completion -/

/-- A completion that has arrived can be applied. -/
theorem Course.deliver_step (h : Course x past) (harrived : x.arrived ≠ []) :
    ∃ news, Step x news x.deliver := by
  obtain ⟨completion, rest, hcons⟩ := List.exists_cons_of_ne_nil harrived
  have hroom := h.room
  rw [hcons, List.length_cons] at hroom
  exact ⟨_, .deliver (queued_cons hcons hroom)⟩

theorem exists_deliver_controller (harrived : x.arrived ≠ []) :
    ∃ completion, x.deliver.controller = x.controller.apply completion := by
  obtain ⟨completion, rest, hcons⟩ := List.exists_cons_of_ne_nil harrived
  exact ⟨completion, by rw [deliver, hcons]⟩

theorem deliver_now (x : Exchange) : x.deliver.now = x.now := by
  rw [deliver]
  split <;> rfl

theorem answer_now (x : Exchange) (number : Nat) (reply : Request → Outcome) :
    (x.answer number reply).now = x.now := by
  rcases x.answer_cases number reply with h | ⟨fetch, -, -, h⟩ <;> rw [h]

end Exchange

/-! ### The loop -/

/-- Where the settling loop stands. -/
inductive Stage where
  /-- About to fire what is due. -/
  | firing
  /-- Taking in what has arrived. -/
  | draining
  /-- Waiting for a completion. -/
  | receiving
  /-- Waiting for a deadline. -/
  | sleeping (deadline : Nat)
  /-- Past the loop. -/
  | done
deriving DecidableEq, Repr

/-- What holds of a controller whose loop stands at a stage. -/
def Stage.Fits (c : Controller) : Stage → Prop
  | .firing | .draining => True
  | .receiving => 0 < c.inFlight
  | .sleeping deadline => c.inFlight = 0 ∧ c.debouncer.nextDeadline = some deadline
  | .done => c.inFlight = 0 ∧ c.debouncer.nextDeadline = none

/-- Whether a loop that stands at a stage can turn. -/
def Stage.Ready (x : Exchange) : Stage → Prop
  | .firing | .draining => True
  | .receiving => x.arrived ≠ []
  | .sleeping deadline => deadline ≤ x.now
  | .done => False

/-- What is left to do at a stage. To fire what is due costs nothing, as it is paid for by what is no
longer pending afterwards. -/
def Stage.price (due : Bool) : Stage → Nat
  | .firing => if due then 0 else 3
  | .draining => 2
  | .receiving | .sleeping _ => 1
  | .done => 0

/-- An exchange whose controller is in the settling loop. -/
structure Settling where
  stage : Stage
  exchange : Exchange

namespace Settling

open Exchange

/-- **A turn of the loop.** -/
inductive Turn : Settling → Settling → Prop where
  /-- What is due is fired. -/
  | fire (x : Exchange) : Turn ⟨.firing, x⟩ ⟨.draining, x.fire⟩
  /-- A completion that has arrived is applied. -/
  | drain {x : Exchange} (harrived : x.arrived ≠ []) : Turn ⟨.draining, x⟩ ⟨.draining, x.deliver⟩
  /-- Something is in flight and nothing has arrived. -/
  | await {x : Exchange} (harrived : x.arrived = []) (hflight : 0 < x.controller.inFlight) :
    Turn ⟨.draining, x⟩ ⟨.receiving, x⟩
  /-- The completion that has been waited for is applied. -/
  | receive {x : Exchange} (harrived : x.arrived ≠ []) : Turn ⟨.receiving, x⟩ ⟨.firing, x.deliver⟩
  /-- Nothing is in flight, and there is a deadline. -/
  | sleep {x : Exchange} {deadline : Nat} (harrived : x.arrived = [])
      (hflight : x.controller.inFlight = 0)
      (hpending : x.controller.debouncer.nextDeadline = some deadline) :
    Turn ⟨.draining, x⟩ ⟨.sleeping deadline, x⟩
  /-- The deadline that has been waited for has come. -/
  | wake {x : Exchange} {deadline : Nat} (hdue : deadline ≤ x.now) :
    Turn ⟨.sleeping deadline, x⟩ ⟨.firing, x⟩
  /-- Nothing is in flight, and nothing is pending. -/
  | finish {x : Exchange} (harrived : x.arrived = []) (hflight : x.controller.inFlight = 0)
      (hpending : x.controller.debouncer.nextDeadline = none) :
    Turn ⟨.draining, x⟩ ⟨.done, x⟩

/-- **A move**: a turn of the loop, an answer of the backend, or time that passes. -/
inductive Move : Settling → Settling → Prop where
  /-- The loop turns. -/
  | turn {s t : Settling} : Turn s t → Move s t
  /-- The backend answers a request. -/
  | answer (stage : Stage) (x : Exchange) (number : Nat) (outcome : Outcome) :
    Move ⟨stage, x⟩ ⟨stage, x.answer number fun _ => outcome⟩
  /-- Time passes. -/
  | wait (stage : Stage) (x : Exchange) (millis : Nat) :
    Move ⟨stage, x⟩ ⟨stage, { x with now := x.now + millis }⟩

/-- **A fair trace**: moves without end in which a loop that can turn does so after a while, every
request is answered after a while, and the clock reaches every time. -/
structure Fair (trace : Nat → Settling) : Prop where
  /-- One move after the other. -/
  moves : ∀ i, Move (trace i) (trace (i + 1))
  /-- A loop that can turn does so. -/
  turns : ∀ i, (∃ t, Turn (trace i) t) → ∃ j ≥ i, Turn (trace j) (trace (j + 1))
  /-- The backend answers whatever has been issued. -/
  answers : ∀ i, ∀ number < (trace i).exchange.controller.requestsIssued,
    ∃ j ≥ i, number ∈ (trace j).exchange.answered
  /-- Time does not stand still. -/
  clock : ∀ i time, ∃ j ≥ i, time ≤ (trace j).exchange.now

variable {s t u : Settling} {trace : Nat → Settling}

/-! ### Where the loop stands -/

/-- **What holds all along**: the exchange has come about in steps, and the loop stands where it fits
the controller. -/
structure Sound (s : Settling) : Prop where
  course : ∃ past, Course s.exchange past
  fits : s.stage.Fits s.exchange.controller

theorem Sound.turn (h : s.Sound) (hturn : Turn s t) : t.Sound := by
  obtain ⟨⟨past, hcourse⟩, -⟩ := h
  cases hturn with
  | fire => exact ⟨⟨_, hcourse.steps hcourse.fire_steps⟩, trivial⟩
  | drain harrived | receive harrived =>
    obtain ⟨news, hstep⟩ := hcourse.deliver_step harrived
    exact ⟨⟨_, hcourse.step hstep⟩, trivial⟩
  | await _ hflight => exact ⟨⟨past, hcourse⟩, hflight⟩
  | sleep _ hflight hpending => exact ⟨⟨past, hcourse⟩, hflight, hpending⟩
  | wake => exact ⟨⟨past, hcourse⟩, trivial⟩
  | finish _ hflight hpending => exact ⟨⟨past, hcourse⟩, hflight, hpending⟩

theorem Sound.move (h : s.Sound) (hmove : Move s t) : t.Sound := by
  cases hmove with
  | turn hturn => exact h.turn hturn
  | answer stage x number outcome =>
    obtain ⟨⟨past, hcourse⟩, hfits⟩ := h
    refine ⟨⟨_, hcourse.step (.answer number outcome)⟩, ?_⟩
    rw [answer_controller]
    exact hfits
  | wait stage x millis =>
    obtain ⟨⟨past, hcourse⟩, hfits⟩ := h
    exact ⟨⟨_, hcourse.step (.wait millis)⟩, hfits⟩

/-- Settling may start wherever the exchange has got to. -/
theorem sound_of_course {x : Exchange} {past : List Happening} (h : Course x past) :
    Sound ⟨.firing, x⟩ := ⟨⟨past, h⟩, trivial⟩

theorem ready_of_turn (h : Turn s t) : s.stage.Ready s.exchange := by
  cases h with
  | fire | drain | await | sleep | finish => trivial
  | receive harrived => exact harrived
  | wake hdue => exact hdue

theorem exists_turn_of_ready (h : s.stage.Ready s.exchange) : ∃ t, Turn s t := by
  obtain ⟨stage, x⟩ := s
  cases stage with
  | firing => exact ⟨_, .fire x⟩
  | draining =>
    by_cases harrived : x.arrived = []
    · rcases Nat.eq_zero_or_pos x.controller.inFlight with hflight | hflight
      · cases hpending : x.controller.debouncer.nextDeadline with
        | none => exact ⟨_, .finish harrived hflight hpending⟩
        | some deadline => exact ⟨_, .sleep harrived hflight hpending⟩
      · exact ⟨_, .await harrived hflight⟩
    · exact ⟨_, .drain harrived⟩
  | receiving => exact ⟨_, .receive h⟩
  | sleeping deadline => exact ⟨_, .wake h⟩
  | done => exact h.elim

/-! ### What remains -/

/-- **What remains to be done**: what is pending, what is in flight, and the stage, at their prices.
The firing of what is pending puts two requests in flight at most. -/
def remaining (s : Settling) : Nat :=
  (if s.exchange.controller.refreshPending then 9 else 0) +
    3 * s.exchange.controller.inFlight + s.stage.price s.exchange.isDue

/-- An applied completion takes its price away. -/
theorem remaining_deliver {x : Exchange} (hflight : 0 < x.controller.inFlight)
    (harrived : x.arrived ≠ []) {stage stage' : Stage}
    (hprice : stage'.price x.isDue < stage.price x.isDue + 3) :
    remaining ⟨stage', x.deliver⟩ < remaining ⟨stage, x⟩ := by
  obtain ⟨completion, hdeliver⟩ := exists_deliver_controller harrived
  have hdue : x.deliver.isDue = x.isDue := by
    rw [isDue, isDue, deliver_now, hdeliver, Controller.apply_debouncer]
  have hpending : x.deliver.controller.refreshPending = x.controller.refreshPending := by
    rw [Controller.refreshPending, hdeliver, Controller.apply_debouncer]
    rfl
  have hless : x.deliver.controller.inFlight = x.controller.inFlight - 1 := by
    rw [hdeliver, Controller.apply_inFlight]
  simp only [remaining, hdue, hpending, hless]
  omega

/-- **Every turn uses up some of it.** -/
theorem Sound.remaining_lt (h : s.Sound) (hturn : Turn s t) : t.remaining < s.remaining := by
  obtain ⟨⟨past, hcourse⟩, hfits⟩ := h
  cases hturn with
  | fire x =>
    by_cases hdue : x.isDue
    · obtain ⟨hpending, -, hnone⟩ := hcourse.fire_of_isDue hdue
      have hquiet : x.fire.controller.refreshPending = false := by
        rw [(hcourse.steps hcourse.fire_steps).refreshPending_eq, hnone]
        rfl
      have hflight : x.fire.controller.inFlight ≤ x.controller.inFlight + 2 :=
        hcourse.fire_inFlight_le hdue
      -- the refresh pays for two requests and for the draining that comes next
      simp only [remaining, Stage.price, hpending, hquiet, hdue, if_true, Bool.false_eq_true, if_false]
      omega
    · simp only [remaining, Stage.price, hcourse.fire_of_not_isDue hdue, if_neg hdue]
      omega
  | @drain x harrived =>
    have hflight := Nat.lt_of_lt_of_le (List.length_pos_of_ne_nil harrived) hcourse.arrived_le
    exact remaining_deliver hflight harrived (by simp only [Stage.price]; omega)
  | @receive x harrived =>
    exact remaining_deliver hfits harrived (by simp only [Stage.price]; split_ifs <;> omega)
  | wake hdue =>
    simp only [remaining, Stage.price, isDue_of_deadline hfits.2 hdue, if_true]
    omega
  | await | sleep | finish =>
    simp only [remaining, Stage.price]
    omega

/-! ### Between two turns -/

/-- **Without a turn**: the loop stands where it stood, and the controller is as it was; time has
passed, and every new answer has left a completion. -/
structure Unturned (s t : Settling) : Prop where
  stage : t.stage = s.stage
  controller : t.exchange.controller = s.exchange.controller
  now : s.exchange.now ≤ t.exchange.now
  post : ∃ numbers completions, t.exchange.answered = numbers ++ s.exchange.answered ∧
    t.exchange.arrived = s.exchange.arrived ++ completions ∧ numbers.length = completions.length

theorem Unturned.refl (s : Settling) : Unturned s s :=
  ⟨rfl, rfl, Nat.le_refl _, [], [], rfl, (List.append_nil _).symm, rfl⟩

theorem Unturned.trans (h : Unturned s t) (h' : Unturned t u) : Unturned s u := by
  obtain ⟨numbers, completions, hanswered, harrived, hlength⟩ := h.post
  obtain ⟨numbers', completions', hanswered', harrived', hlength'⟩ := h'.post
  refine ⟨h'.stage.trans h.stage, h'.controller.trans h.controller, Nat.le_trans h.now h'.now,
    numbers' ++ numbers, completions ++ completions', ?_, ?_, ?_⟩
  · rw [hanswered', hanswered, List.append_assoc]
  · rw [harrived', harrived, List.append_assoc]
  · rw [List.length_append, List.length_append, hlength, hlength', Nat.add_comm]

/-- A move is a turn, or goes without one. -/
theorem Move.turn_or_unturned (h : Move s t) : Turn s t ∨ Unturned s t := by
  cases h with
  | turn hturn => exact .inl hturn
  | answer stage x number outcome =>
    refine .inr ?_
    rcases x.answer_cases number fun _ => outcome with h | ⟨fetch, -, -, h⟩ <;> rw [h]
    · exact .refl _
    · exact ⟨rfl, rfl, Nat.le_refl _, [number], [_], rfl, rfl, rfl⟩
  | wait stage x millis =>
    exact .inr ⟨rfl, rfl, Nat.le_add_right _ _, [], [], rfl, (List.append_nil _).symm, rfl⟩

/-- Without a turn nothing is added to what remains. -/
theorem Unturned.remaining_le (h : Unturned s t) : t.remaining ≤ s.remaining := by
  have hprice : s.stage.price t.exchange.isDue ≤ s.stage.price s.exchange.isDue := by
    cases hdue : s.exchange.isDue with
    | true => exact Nat.le_of_eq (by rw [isDue_of_later h.controller h.now hdue])
    | false => cases s.stage <;> cases t.exchange.isDue <;> simp [Stage.price]
  simp only [remaining, h.stage, h.controller]
  omega

/-- Without a turn a loop that could turn still can. -/
theorem Unturned.ready (h : Unturned s t) (hready : s.stage.Ready s.exchange) :
    t.stage.Ready t.exchange := by
  obtain ⟨numbers, completions, -, harrived, -⟩ := h.post
  rw [h.stage]
  cases hstage : s.stage with
  | firing | draining => trivial
  | receiving =>
    rw [hstage] at hready
    intro hnothing
    rw [harrived, List.append_eq_nil_iff] at hnothing
    exact hready hnothing.1
  | sleeping deadline =>
    rw [hstage] at hready
    exact Nat.le_trans hready h.now
  | done =>
    rw [hstage] at hready
    exact hready

/-! ### Fair traces -/

theorem Fair.sound (h : Fair trace) (hstart : (trace 0).Sound) (i : Nat) : (trace i).Sound := by
  induction i with
  | zero => exact hstart
  | succ i ih => exact ih.move (h.moves i)

theorem Fair.remaining_le (h : Fair trace) (hstart : (trace 0).Sound) {i j : Nat} (hij : i ≤ j) :
    (trace j).remaining ≤ (trace i).remaining := by
  induction hij with
  | refl => exact Nat.le_refl _
  | @step j hij ih =>
    refine Nat.le_trans ?_ ih
    rcases (h.moves j).turn_or_unturned with hturn | hun
    · exact Nat.le_of_lt ((h.sound hstart j).remaining_lt hturn)
    · exact hun.remaining_le

theorem Fair.turn_or_unturned (h : Fair trace) {i j : Nat} (hij : i ≤ j) :
    (∃ k ≥ i, Turn (trace k) (trace (k + 1))) ∨ Unturned (trace i) (trace j) := by
  induction hij with
  | refl => exact .inr (.refl _)
  | @step j hij ih =>
    rcases ih with hturn | hun
    · exact .inl hturn
    · rcases (h.moves j).turn_or_unturned with hturn | hnext
      · exact .inl ⟨j, hij, hturn⟩
      · exact .inr (hun.trans hnext)

/-- What makes a loop ready in the end makes it turn in the end. -/
theorem Fair.turns_of_ready (h : Fair trace) {i j : Nat} (hij : i ≤ j)
    (hready : Unturned (trace i) (trace j) → (trace j).stage.Ready (trace j).exchange) :
    ∃ k ≥ i, Turn (trace k) (trace (k + 1)) := by
  rcases h.turn_or_unturned hij with hturn | hun
  · exact hturn
  · obtain ⟨k, hk, hturn⟩ := h.turns j (exists_turn_of_ready (hready hun))
    exact ⟨k, Nat.le_trans hij hk, hturn⟩

/-- With something in flight a completion waits, or a request has no answer yet. -/
theorem exists_unanswered {x : Exchange} {past : List Happening} (h : Course x past)
    (hflight : 0 < x.controller.inFlight) (harrived : x.arrived = []) :
    ∃ number < x.controller.requestsIssued, number ∉ x.answered := by
  by_contra hnone
  have heq := h.inFlight_of_answered fun number hlt =>
    by_contra fun hmissing => hnone ⟨number, hlt, hmissing⟩
  rw [harrived, List.length_nil] at heq
  omega

/-- **A loop that is not done turns.** -/
theorem Fair.exists_turn (h : Fair trace) {i : Nat} (hsound : (trace i).Sound)
    (hdone : (trace i).stage ≠ .done) : ∃ j ≥ i, Turn (trace j) (trace (j + 1)) := by
  obtain ⟨⟨past, hcourse⟩, hfits⟩ := hsound
  cases hstage : (trace i).stage with
  | firing | draining =>
    refine h.turns i (exists_turn_of_ready ?_)
    rw [hstage]
    trivial
  | receiving =>
    rw [hstage] at hfits
    by_cases harrived : (trace i).exchange.arrived = []
    · -- the answer that is missing comes, and leaves a completion
      obtain ⟨number, hlt, hmissing⟩ := exists_unanswered hcourse hfits harrived
      obtain ⟨j, hij, hanswered⟩ := h.answers i number hlt
      refine h.turns_of_ready hij fun hun => ?_
      obtain ⟨numbers, completions, hnumbers, hcompletions, hlength⟩ := hun.post
      rw [hun.stage, hstage]
      intro hnothing
      rw [hnothing, harrived, List.nil_append] at hcompletions
      rw [← hcompletions, List.length_nil, List.length_eq_zero_iff] at hlength
      rw [hnumbers, hlength] at hanswered
      exact hmissing hanswered
    · refine h.turns i (exists_turn_of_ready ?_)
      rw [hstage]
      exact harrived
  | sleeping deadline =>
    obtain ⟨j, hij, hnow⟩ := h.clock i deadline
    refine h.turns_of_ready hij fun hun => ?_
    rw [hun.stage, hstage]
    exact hnow
  | done => exact absurd hstage hdone

/-- **Every fair trace comes to the end of the loop.** -/
theorem Fair.exists_done (h : Fair trace) (hstart : (trace 0).Sound) :
    ∃ n, (trace n).stage = .done := by
  suffices hall : ∀ r i, (trace i).remaining = r → ∃ n, (trace n).stage = .done from hall _ 0 rfl
  intro r
  induction r using Nat.strongRecOn with
  | ind r ih =>
    rintro i rfl
    by_cases hdone : (trace i).stage = .done
    · exact ⟨i, hdone⟩
    · obtain ⟨j, hij, hturn⟩ := h.exists_turn (h.sound hstart i) hdone
      have hlt := (h.sound hstart j).remaining_lt hturn
      exact ih _ (Nat.lt_of_lt_of_le hlt (h.remaining_le hstart hij)) (j + 1) rfl

/-! ### What is fetched on the way -/

/-- **What the loop has fetched** since it started with a controller: nothing, and the controller would
still fetch what it would have fetched at the start; or what was pending, and nothing is pending any
more. -/
inductive Since (c d : Controller) : Prop where
  /-- Nothing has been fetched. -/
  | before (hledger : d.ledger = c.ledger) (hcontext : d.context = c.context)
      (hgeneration : d.generation = c.generation) (hmode : d.view.mode = c.view.mode)
      (hdebouncer : d.debouncer = c.debouncer)
  /-- What was pending has been fetched. -/
  | after (hpending : c.refreshPending) (hfetched : c.FetchedOnce d)
      (hnone : d.debouncer.nextDeadline = none)

theorem Since.refl (c : Controller) : Since c c := .before rfl rfl rfl rfl rfl

/-- A completion fetches nothing. -/
theorem Since.apply {c d : Controller} (h : Since c d) (completion : Completion) :
    Since c (d.apply completion) := by
  cases h with
  | before hledger hcontext hgeneration hmode hdebouncer =>
    exact .before (by simpa) (by simpa) (by simpa) (by simpa) (by simpa)
  | after hpending hfetched hnone =>
    refine .after hpending ?_ (by simpa)
    simpa [Controller.FetchedOnce] using hfetched

/-- What is due is fetched as it would have been at the start. -/
theorem Since.fire {c : Controller} {x : Exchange} {past : List Happening} (hcourse : Course x past)
    (h : Since c x.controller) : Since c x.fire.controller := by
  by_cases hdue : x.isDue
  · obtain ⟨hpending, hfetched, hnone⟩ := hcourse.fire_of_isDue hdue
    cases h with
    | before hledger hcontext hgeneration hmode hdebouncer =>
      refine .after ?_ ?_ hnone
      · rwa [Controller.refreshPending, ← hdebouncer]
      · simpa only [Controller.FetchedOnce, hledger, hcontext, hgeneration, hmode] using hfetched
    | after _ _ hnone' =>
      rw [hcourse.refreshPending_eq, hnone'] at hpending
      cases hpending
  · rwa [hcourse.fire_of_not_isDue hdue]

theorem Since.move {c : Controller} (hsound : s.Sound) (hmove : Move s t)
    (h : Since c s.exchange.controller) : Since c t.exchange.controller := by
  cases hmove with
  | turn hturn =>
    obtain ⟨⟨past, hcourse⟩, -⟩ := hsound
    cases hturn with
    | fire => exact h.fire hcourse
    | drain harrived | receive harrived =>
      obtain ⟨completion, hdeliver⟩ := exists_deliver_controller harrived
      simp only [hdeliver]
      exact h.apply completion
    | await | sleep | wake | finish => exact h
  | answer => rwa [answer_controller]
  | wait => exact h

theorem Since.requestsIssued_le {c d : Controller} (h : Since c d) :
    c.requestsIssued ≤ d.requestsIssued := by
  cases h with
  | before hledger => exact Nat.le_of_eq (congrArg List.length hledger.symm)
  | after _ hfetched => rcases hfetched.requestsIssued_eq with hissued | hissued <;> omega

/-- **What a fair trace has fetched at any time.** -/
theorem Fair.since (h : Fair trace) (hstart : (trace 0).Sound) (n : Nat) :
    Since (trace 0).exchange.controller (trace n).exchange.controller := by
  induction n with
  | zero => exact .refl _
  | succ n ih => exact Since.move (h.sound hstart n) (h.moves n) ih

end Settling

end ProfileBrowser
