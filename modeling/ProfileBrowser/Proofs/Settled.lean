import ProfileBrowser.Proofs.Settling
import Mathlib.Logic.Relation
/-!
# Settled

What the settling loop leaves, whichever way it goes: nothing in flight, pending or loading, and at
most one fetch of table and flame graph on the way, if one was pending (`settle_comes_to_rest`).

`Exchange.settle` is one of these ways, in which the backend answers everything at once and the clock
jumps to the deadline (`settle_moves`). That way leads to the end of the loop, and any way that
does so is the beginning of a fair trace (`exists_fair`).
-/

namespace ProfileBrowser

/-- **What settling leaves** of a controller: everything is at rest, and what was pending at the start
has been fetched. -/
structure Controller.Settled (c d : Controller) : Prop where
  inFlight : d.inFlight = 0
  refreshPending : d.refreshPending = false
  nextDeadline : d.debouncer.nextDeadline = none
  isLoading : d.view.isLoading = false
  /-- Nothing is issued if nothing was pending. -/
  idle : c.refreshPending = false → d.ledger = c.ledger
  /-- Otherwise table and flame graph are fetched once, and the call graph at most. -/
  fetched : c.refreshPending = true → c.FetchedOnce d

namespace Exchange

variable {x : Exchange} {past : List Happening}

/-! ### Everything without the clock -/

/-- An answer is given to whatever has been issued. -/
theorem mem_answered_answer {n number : Nat} (reply : Request → Outcome)
    (h : n ∈ x.answered ∨ n = number ∧ n < x.controller.requestsIssued) :
    n ∈ (x.answer number reply).answered := by
  by_cases hanswered : number ∈ x.answered
  · have hsame : x.answer number reply = x := by simp [answer, hanswered]
    rw [hsame]
    exact h.elim id fun heq => heq.1 ▸ hanswered
  · rcases h with hn | ⟨rfl, hlt⟩
    · rcases x.answer_cases number reply with h | ⟨fetch, -, -, h⟩ <;> rw [h]
      · exact hn
      · exact List.mem_cons_of_mem _ hn
    · have hfetch : x.fetch? n = some _ :=
        List.getElem?_eq_getElem (by rwa [List.length_reverse])
      simp [answer, hanswered, hfetch]

theorem foldl_answer (reply : Request → Outcome) (numbers : List Nat) (x : Exchange) :
    let y := numbers.foldl (fun x number => x.answer number reply) x
    y.controller = x.controller ∧ y.now = x.now ∧
      ∀ n < x.controller.requestsIssued, n ∈ x.answered ∨ n ∈ numbers → n ∈ y.answered := by
  induction numbers generalizing x with
  | nil => exact ⟨rfl, rfl, fun n _ hn => hn.resolve_right List.not_mem_nil⟩
  | cons number numbers ih =>
    obtain ⟨hcontroller, hnow, hanswered⟩ := ih (x.answer number reply)
    rw [answer_controller] at hcontroller hanswered
    rw [answer_now] at hnow
    refine ⟨hcontroller, hnow, fun n hlt hn => hanswered n hlt ?_⟩
    rw [List.mem_cons, ← or_assoc] at hn
    exact hn.imp_left fun hn => mem_answered_answer reply (hn.imp_right fun heq => ⟨heq, hlt⟩)

theorem answerAll_controller (x : Exchange) (reply : Request → Outcome) :
    (x.answerAll reply).controller = x.controller := (foldl_answer reply _ x).1

theorem answerAll_now (x : Exchange) (reply : Request → Outcome) :
    (x.answerAll reply).now = x.now := (foldl_answer reply _ x).2.1

theorem mem_answered_answerAll (reply : Request → Outcome) {n : Nat}
    (hlt : n < x.controller.requestsIssued) : n ∈ (x.answerAll reply).answered := by
  refine (foldl_answer reply _ x).2.2 n hlt ?_
  by_cases hanswered : n ∈ x.answered
  · exact .inl hanswered
  · exact .inr (by simp [waiting, hlt, hanswered])

/-- One answer takes one outcome of a backend. -/
theorem exists_answer_eq (x : Exchange) (number : Nat) (reply : Request → Outcome) :
    ∃ outcome, x.answer number reply = x.answer number fun _ => outcome := by
  cases hfetch : x.fetch? number with
  | none => exact ⟨.empty, by simp [answer, hfetch]⟩
  | some fetch => exact ⟨reply fetch.request, by simp [answer, hfetch]⟩

theorem poll_debouncer (x : Exchange) :
    x.poll.1.controller.debouncer = x.fire.controller.debouncer := by
  rw [poll_eq]
  exact foldl_apply_eq Controller.apply_debouncer _ _

/-- What has been fired is due no more. -/
theorem Course.not_isDue_fire (h : Course x past) : ¬ x.fire.isDue := by
  by_cases hdue : x.isDue
  · rw [isDue, (h.fire_of_isDue hdue).2.2]
    exact Bool.false_ne_true
  · rwa [h.fire_of_not_isDue hdue]

end Exchange

namespace Settling

open Exchange Relation

variable {s t : Settling} {x : Exchange} {past : List Happening}

theorem Sound.moves (h : s.Sound) (hmoves : ReflTransGen Move s t) : t.Sound := by
  induction hmoves with
  | refl => exact h
  | tail _ hmove ih => exact ih.move hmove

/-- Completions leave the queue turn by turn. -/
theorem moves_of_deliveries {x y : Exchange} {news : List Happening} (h : Deliveries x news y) :
    ReflTransGen Move ⟨.draining, x⟩ ⟨.draining, y⟩ := by
  induction h with
  | nil => exact .refl
  | cons hqueued _ ih =>
    obtain ⟨later, harrived, -⟩ := deliver_eq hqueued
    exact .head (.turn (.drain (by simp [harrived]))) ih

theorem answer_move (stage : Stage) (x : Exchange) (number : Nat) (reply : Request → Outcome) :
    Move ⟨stage, x⟩ ⟨stage, x.answer number reply⟩ := by
  obtain ⟨outcome, heq⟩ := x.exists_answer_eq number reply
  rw [heq]
  exact .answer stage x number outcome

theorem answerAll_moves (stage : Stage) (x : Exchange) (reply : Request → Outcome) :
    ReflTransGen Move ⟨stage, x⟩ ⟨stage, x.answerAll reply⟩ := by
  rw [answerAll]
  generalize x.waiting = numbers
  induction numbers generalizing x with
  | nil => exact .refl
  | cons number numbers ih => exact .head (answer_move stage x number reply) (ih _)

/-- What is left when everything has happened that happens without the clock. -/
structure Exhausted (x y : Exchange) : Prop where
  moves : ReflTransGen Move ⟨.firing, x⟩ ⟨.draining, y⟩
  arrived : y.arrived = []
  inFlight : y.controller.inFlight = 0
  debouncer : y.controller.debouncer = x.fire.controller.debouncer

/-- A poll, the answers and another poll are a way through the loop: the second poll fires nothing, and
applies what the backend has answered since the first. -/
theorem exhausted (h : Course x past) (reply : Request → Outcome) :
    Exhausted x (x.exhaust reply) := by
  have hsound := sound_of_course h
  have hpoll : ReflTransGen Move ⟨.firing, x⟩ ⟨.draining, x.poll.1⟩ :=
    .head (.turn (.fire x)) (moves_of_deliveries h.poll_deliveries)
  have hanswers := hpoll.trans (answerAll_moves .draining x.poll.1 reply)
  obtain ⟨⟨before, hbefore⟩, -⟩ := hsound.moves hanswers
  have hquiet : (x.poll.1.answerAll reply).fire = x.poll.1.answerAll reply := by
    refine hbefore.fire_of_not_isDue ?_
    rw [isDue, answerAll_controller, answerAll_now, poll_debouncer]
    exact h.not_isDue_fire
  have hdeliveries := hbefore.poll_deliveries
  rw [hquiet] at hdeliveries
  have hmoves := hanswers.trans (moves_of_deliveries hdeliveries)
  obtain ⟨⟨after, hafter⟩, -⟩ := hsound.moves hmoves
  have hledger : (x.exhaust reply).controller.ledger = x.poll.1.controller.ledger := by
    rw [← answerAll_controller x.poll.1 reply, ← hquiet]
    exact poll_ledger _
  refine ⟨hmoves, rfl, hafter.inFlight_of_answered fun number hlt => ?_, ?_⟩
  · have hissued : number < x.poll.1.controller.requestsIssued := by
      rw [Controller.requestsIssued, ← hledger]
      exact hlt
    exact mem_answered_answerAll reply hissued
  · rw [exhaust, poll_debouncer, hquiet, answerAll_controller, poll_debouncer]

/-! ### All at once -/

/-- There is one trigger only, so everything is exhausted twice at most. -/
theorem settle_eq (h : Course x past) (reply : Request → Outcome) :
    x.settle reply =
      match (x.exhaust reply).controller.debouncer.nextDeadline with
      | none => x.exhaust reply
      | some deadline =>
        { x.exhaust reply with now := max (x.exhaust reply).now deadline }.exhaust reply := by
  rw [settle, h.pending]
  cases hawaited : awaited past with
  | some time => rfl
  | none =>
    have hnone : x.controller.debouncer.nextDeadline = none := by rw [h.nextDeadline, hawaited]; rfl
    have hidle : x.fire = x := h.fire_of_early (by simp [hawaited])
    rw [(exhausted h reply).debouncer, hidle, hnone]
    rfl

/-- The loop sleeps up to the deadline. -/
theorem sleep_moves {deadline : Nat} (harrived : x.arrived = []) (hflight : x.controller.inFlight = 0)
    (hpending : x.controller.debouncer.nextDeadline = some deadline) :
    ReflTransGen Move ⟨.draining, x⟩ ⟨.firing, { x with now := max x.now deadline }⟩ := by
  have hnow : max x.now deadline = x.now + (deadline - x.now) := by omega
  have hsleep : ReflTransGen Move ⟨.draining, x⟩ ⟨.sleeping deadline, x⟩ :=
    .single (.turn (.sleep harrived hflight hpending))
  have hwait := hsleep.tail (.wait _ x (deadline - x.now))
  rw [← hnow] at hwait
  exact hwait.tail (.turn (.wake (Nat.le_max_right _ _)))

/-- **What settles all at once is a way through the loop.** -/
theorem settle_moves (h : Course x past) (reply : Request → Outcome) :
    ReflTransGen Move ⟨.firing, x⟩ ⟨.done, x.settle reply⟩ := by
  have hfirst := exhausted h reply
  rw [settle_eq h]
  cases hpending : (x.exhaust reply).controller.debouncer.nextDeadline with
  | none => exact hfirst.moves.tail (.turn (.finish hfirst.arrived hfirst.inFlight hpending))
  | some deadline =>
    have hwake := hfirst.moves.trans (sleep_moves hfirst.arrived hfirst.inFlight hpending)
    have hdue : Exchange.isDue { x.exhaust reply with now := max (x.exhaust reply).now deadline } :=
      isDue_of_deadline hpending (Nat.le_max_right _ _)
    dsimp only
    generalize { x.exhaust reply with now := max (x.exhaust reply).now deadline } = y at hwake hdue ⊢
    -- what was pending is due now, so it is fired and nothing is pending any more
    obtain ⟨⟨before, hbefore⟩, -⟩ := (sound_of_course h).moves hwake
    have hagain := exhausted hbefore reply
    have hnone : (y.exhaust reply).controller.debouncer.nextDeadline = none := by
      rw [hagain.debouncer]
      exact (hbefore.fire_of_isDue hdue).2.2
    exact (hwake.trans hagain.moves).tail (.turn (.finish hagain.arrived hagain.inFlight hnone))

/-! ### Fair traces -/

/-- A trace with one move more at its beginning. -/
def preceded (s : Settling) (trace : Nat → Settling) : Nat → Settling
  | 0 => s
  | i + 1 => trace i

/-- A trace in which nothing happens but that time passes. -/
def idle (s : Settling) (i : Nat) : Settling :=
  { s with exchange := { s.exchange with now := s.exchange.now + i } }

/-- **One move more at the beginning leaves a trace fair.** -/
theorem Fair.preceded {trace : Nat → Settling} (h : Fair trace) (hsound : s.Sound)
    (hmove : Move s (trace 0)) : Fair (preceded s trace) where
  moves := by
    rintro (_ | i)
    · exact hmove
    · exact h.moves i
  turns := by
    rintro (_ | i) hturn
    · obtain ⟨u, hturn⟩ := hturn
      rcases hmove.turn_or_unturned with hfirst | hun
      · exact ⟨0, Nat.le_refl _, hfirst⟩
      · obtain ⟨j, -, hlater⟩ := h.turns 0 (exists_turn_of_ready (hun.ready (ready_of_turn hturn)))
        exact ⟨j + 1, Nat.zero_le _, hlater⟩
    · obtain ⟨j, hij, hlater⟩ := h.turns i hturn
      exact ⟨j + 1, Nat.succ_le_succ hij, hlater⟩
  answers := by
    rintro (_ | i) number hlt
    · have hle := (Since.move hsound hmove (.refl _)).requestsIssued_le
      obtain ⟨j, -, hanswered⟩ := h.answers 0 number (Nat.lt_of_lt_of_le hlt hle)
      exact ⟨j + 1, Nat.zero_le _, hanswered⟩
    · obtain ⟨j, hij, hanswered⟩ := h.answers i number hlt
      exact ⟨j + 1, Nat.succ_le_succ hij, hanswered⟩
  clock := by
    intro i time
    obtain ⟨j, hij, hnow⟩ := h.clock i time
    exact ⟨j + 1, Nat.le_succ_of_le hij, hnow⟩

/-- At the end of the loop everything has been answered, and only time passes. -/
theorem fair_idle (hsound : s.Sound) (hdone : s.stage = .done) : Fair (idle s) where
  moves i := .wait s.stage { s.exchange with now := s.exchange.now + i } 1
  turns i := by
    rintro ⟨u, hturn⟩
    have hready := ready_of_turn hturn
    simp only [idle, hdone] at hready
    exact hready.elim
  answers i number hlt := by
    obtain ⟨⟨past, hcourse⟩, hfits⟩ := hsound
    rw [hdone] at hfits
    exact ⟨i, Nat.le_refl _, hcourse.answered_of_rest hfits.1 hlt⟩
  clock i time := ⟨max i time, Nat.le_max_left _ _, by simp only [idle]; omega⟩

/-- **Every way to the end of the loop is the beginning of a fair trace.** -/
theorem exists_fair (hmoves : ReflTransGen Move s t) (hsound : s.Sound) (hdone : t.stage = .done) :
    ∃ trace n, Fair trace ∧ trace 0 = s ∧ trace n = t := by
  induction hmoves using ReflTransGen.head_induction_on with
  | refl => exact ⟨idle t, 0, fair_idle hsound hdone, rfl, rfl⟩
  | @head s u hmove _ ih =>
    obtain ⟨trace, n, hfair, rfl, hend⟩ := ih (hsound.move hmove)
    exact ⟨preceded s trace, n + 1, hfair.preceded hsound hmove, rfl, hend⟩

/-! ### What settling leaves -/

/-- **The end of the loop is a rest.** -/
theorem Since.settled {c : Controller} (h : Since c s.exchange.controller) (hsound : s.Sound)
    (hdone : s.stage = .done) : c.Settled s.exchange.controller := by
  obtain ⟨⟨past, hcourse⟩, hfits⟩ := hsound
  rw [hdone] at hfits
  obtain ⟨hflight, hnone⟩ := hfits
  have hquiet : s.exchange.controller.refreshPending = false := by
    rw [hcourse.refreshPending_eq, hnone]
    rfl
  refine ⟨hflight, hquiet, hnone, hcourse.not_loading hflight, fun hidle => ?_, fun hpending => ?_⟩
  · cases h with
    | before hledger => exact hledger
    | after hpending => rw [hpending] at hidle; cases hidle
  · cases h with
    | before _ _ _ _ hdebouncer =>
      rw [Controller.refreshPending, hdebouncer] at hquiet
      exact absurd hpending (Bool.eq_false_iff.mp hquiet)
    | after _ hfetched => exact hfetched

/-- **What every fair trace comes to.** -/
theorem Fair.comes_to_rest {trace : Nat → Settling} (h : Fair trace) (hcourse : Course x past)
    (hzero : trace 0 = ⟨.firing, x⟩) :
    (∃ n, (trace n).stage = .done) ∧
      ∀ n, let d := (trace n).exchange.controller
        (d.ledger = x.controller.ledger ∨
          x.controller.refreshPending ∧ x.controller.FetchedOnce d) ∧
        ((trace n).stage = .done → x.controller.Settled d) := by
  have hstart : (trace 0).Sound := hzero ▸ sound_of_course hcourse
  refine ⟨h.exists_done hstart, fun n => ?_⟩
  have hsince := h.since hstart n
  rw [hzero] at hsince
  refine ⟨?_, hsince.settled (h.sound hstart n)⟩
  cases hsince with
  | before hledger => exact .inl hledger
  | after hpending hfetched => exact .inr ⟨hpending, hfetched⟩

end Settling

namespace Exchange

open Settling

/-- **Settling all at once** is a fair trace up to the end of the loop. -/
theorem Course.settle {x : Exchange} {past : List Happening} (h : Course x past) (reply : Request → Outcome) :
    x.controller.Settled (x.settle reply).controller ∧
      ∃ trace n, Fair trace ∧ trace 0 = ⟨.firing, x⟩ ∧ trace n = ⟨.done, x.settle reply⟩ := by
  obtain ⟨trace, n, hfair, hzero, hend⟩ :=
    exists_fair (settle_moves h reply) (sound_of_course h) rfl
  have hsettled := ((hfair.comes_to_rest h hzero).2 n).2
  rw [hend] at hsettled
  exact ⟨hsettled rfl, trace, n, hfair, hzero, hend⟩

/-- **Settling comes to rest.** After any run: the settling loop comes to its end in every fair trace,
whatever the backend answers and in whatever order. All the while it has issued nothing, or, if a refresh
was pending when it started, one request for table and flame graph, in the mode of the call graph
perhaps one for that, and no other. At the end nothing is in flight, pending or loading, and the pending
refresh has been fetched. `settle` is the outcome of such a trace for every backend. -/
theorem settle_comes_to_rest (context : Context) (quiet : Nat) (mode : Mode) (events : List Event) :
    let x := (Exchange.new context quiet mode).run events
    let c := x.controller
    (∀ trace, Fair trace → trace 0 = ⟨.firing, x⟩ →
      (∃ n, (trace n).stage = .done) ∧
      ∀ n, let d := (trace n).exchange.controller
        (d.ledger = c.ledger ∨ c.refreshPending ∧ c.FetchedOnce d) ∧
        ((trace n).stage = .done → c.Settled d)) ∧
    ∀ reply, c.Settled (x.settle reply).controller ∧
      ∃ trace n, Fair trace ∧ trace 0 = ⟨.firing, x⟩ ∧ trace n = ⟨.done, x.settle reply⟩ := by
  intro x c
  have h : Course x (history (.new context quiet mode) events ++ [.triggered 0]) :=
    course_run context quiet mode events
  exact ⟨fun trace hfair hzero => hfair.comes_to_rest h hzero, h.settle⟩

/-- A new controller in the mode of the call graph sleeps up to its deadline, fetches table and flame
graph and the call graph with them, and is at rest. -/
theorem settle_in_call_graph_mode :
    let x := Exchange.new default 300 .topo
    ∃ trace n, (Fair trace ∧ trace 0 = ⟨.firing, x⟩ ∧ (trace n).stage = .done) ∧
      x.controller.Settled (trace n).exchange.controller ∧
      (trace n).exchange.controller.ledger.map (·.request.kinds) =
        [[.callgraph], [.table, .flamegraph]] := by
  intro x
  obtain ⟨hall, hsettle⟩ := settle_comes_to_rest default 300 .topo []
  obtain ⟨-, trace, n, hfair, hzero, hend⟩ := hsettle fun _ => .empty
  have hdone : (trace n).stage = .done := by rw [hend]
  refine ⟨trace, n, ⟨hfair, hzero, hdone⟩, ((hall trace hfair hzero).2 n).2 hdone, ?_⟩
  rw [hend]
  decide

end Exchange

end ProfileBrowser
