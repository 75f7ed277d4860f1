import ProfileBrowser.Proofs.Operations
/-!
# Runs of the exchange

What happens in a run of controller and backend, written down with the last happening first: the
context is replaced, table and flame graph are asked for, a request is issued, a completion is
applied. The ledger, the clock and the queue of completions say what happens at each event
(`happenings`), so the history of a run is no second account of it.

An event may do several things at once: a poll fires what is due and then takes completions off the
queue one by one. `Step` lists the single things that can happen to an exchange, each with the
exchange that it leaves and with what it adds to the history. Every run is made of them
(`run_steps`), and what is to hold in every state that a run reaches, the states inside a poll
included, is proved of one step (`Course`).
-/

namespace ProfileBrowser

namespace Exchange

/-! ### Happenings -/

/-- Something that happens in a run. -/
inductive Happening where
  /-- Table and flame graph are asked for. -/
  | triggered (time : Nat)
  /-- The context is replaced. -/
  | replaced
  /-- A request is issued under its number. -/
  | issued (number : Nat) (fetch : Fetch)
  /-- The completion of the request with a number is applied. -/
  | applied (number : Nat) (completion : Completion)

/-- Whether an event replaces the context. -/
def Event.replaces : Event → Bool
  | .setParams _ | .setRange _ => true
  | _ => false

/-- Whether the backend answers at an event. -/
def Event.answers : Event → Bool
  | .answer _ _ => true
  | _ => false

/-- The entries of a ledger with their numbers, the last first. -/
def entries : List Fetch → List Happening
  | [] => []
  | fetch :: earlier => .issued earlier.length fetch :: entries earlier

/-- What is issued between an exchange and a later one. -/
def issuedSince (x y : Exchange) : List Happening :=
  (entries y.controller.ledger).take (y.controller.requestsIssued - x.controller.requestsIssued)

/-- The completions that wait to be applied, with the numbers of their requests. -/
def queued (x : Exchange) : List (Nat × Completion) :=
  (x.answered.take x.arrived.length).reverse.zip x.arrived

/-- What the user makes happen at an event: every change of the context asks for table and flame
graph. -/
def askedBy (x : Exchange) : Event → List Happening
  | .setParams _ | .setRange _ => [.triggered x.now, .replaced]
  | .refresh => [.triggered x.now]
  | _ => []

/-- What is applied at an event: at a poll every completion that waits. -/
def appliedBy (x : Exchange) : Event → List Happening
  | .poll => (x.queued.map fun p => .applied p.1 p.2).reverse
  | _ => []

/-- What happens at an event, the last first. A poll applies completions after it has issued what is
due. -/
def happenings (x : Exchange) (e : Event) : List Happening :=
  x.appliedBy e ++ (issuedSince x (x.handle e) ++ x.askedBy e)

/-- What happens in a run, the last first. -/
def history (x : Exchange) : List Event → List Happening
  | [] => []
  | e :: events => history (x.handle e) events ++ x.happenings e

/-! ### Readings of a history -/

/-- What has happened since the context was replaced, or since the start. -/
def recent : List Happening → List Happening
  | [] => []
  | .replaced :: _ => []
  | h :: past => h :: recent past

/-- When table and flame graph were last asked for, unless they have been requested since. -/
def awaited : List Happening → Option Nat
  | [] => none
  | .triggered time :: _ => some time
  | .replaced :: past => awaited past
  | .issued _ fetch :: past => if fetch.isCharts then none else awaited past
  | .applied _ _ :: past => awaited past

/-- A request that has been issued and whose completion has not been applied. -/
def Outstanding (past : List Happening) (number : Nat) (fetch : Fetch) : Prop :=
  .issued number fetch ∈ past ∧ ∀ completion, .applied number completion ∉ past

/-- A request that has been issued and whose completion has been applied, with its outcome. -/
def Answered (past : List Happening) (number : Nat) (fetch : Fetch) (outcome : Outcome) : Prop :=
  .issued number fetch ∈ past ∧ .applied number ⟨fetch.purpose, outcome⟩ ∈ past

@[simp] theorem awaited_triggered (time : Nat) (past : List Happening) :
    awaited (.triggered time :: past) = some time := rfl

@[simp] theorem awaited_applied (number : Nat) (completion : Completion) (past : List Happening) :
    awaited (.applied number completion :: past) = awaited past := rfl

@[simp] theorem recent_triggered (time : Nat) (past : List Happening) :
    recent (.triggered time :: past) = .triggered time :: recent past := rfl

@[simp] theorem recent_replaced (past : List Happening) : recent (.replaced :: past) = [] := rfl

@[simp] theorem recent_issued (number : Nat) (fetch : Fetch) (past : List Happening) :
    recent (.issued number fetch :: past) = .issued number fetch :: recent past := rfl

@[simp] theorem recent_applied (number : Nat) (completion : Completion) (past : List Happening) :
    recent (.applied number completion :: past) = .applied number completion :: recent past := rfl

theorem mem_of_mem_recent {h : Happening} {past : List Happening} (hh : h ∈ recent past) :
    h ∈ past := by
  induction past with
  | nil => simp [recent] at hh
  | cons a past ih =>
    cases a with
    | replaced => simp at hh
    | triggered | issued | applied =>
      rcases List.mem_cons.mp hh with rfl | hh
      · exact List.mem_cons_self
      · exact List.mem_cons_of_mem _ (ih hh)

/-- What follows the last replacement is recent. -/
theorem recent_append {news : List Happening} (h : .replaced ∉ news) (past : List Happening) :
    recent (news ++ past) = news ++ recent past := by
  induction news with
  | nil => rfl
  | cons a news ih =>
    rw [List.mem_cons, not_or] at h
    cases a with
    | replaced => exact absurd rfl h.1
    | triggered | issued | applied =>
      rw [List.cons_append, List.cons_append, ← ih h.2]
      rfl

/-- A ledger holds requests and nothing else. -/
theorem eq_issued_of_mem_entries {h : Happening} {ledger : List Fetch} (hh : h ∈ entries ledger) :
    ∃ number fetch, h = .issued number fetch := by
  induction ledger with
  | nil => cases hh
  | cons fetch ledger ih =>
    rcases List.mem_cons.mp hh with rfl | hh
    · exact ⟨_, _, rfl⟩
    · exact ih hh

/-- Only the replacing events replace the context. -/
theorem replaces_of_replaced_mem {x : Exchange} {e : Event} (h : .replaced ∈ x.happenings e) :
    e.replaces := by
  rcases List.mem_append.mp h with happlied | h
  · cases e with
    | poll => simp [appliedBy] at happlied
    | _ => cases happlied
  · rcases List.mem_append.mp h with hissued | hasked
    · obtain ⟨number, fetch, h⟩ := eq_issued_of_mem_entries (List.mem_of_mem_take hissued)
      cases h
    · cases e with
      | setParams | setRange => rfl
      | refresh => simp [askedBy] at hasked
      | _ => cases hasked

/-- What an event applies has waited in the queue. -/
theorem queued_of_applied_mem {x : Exchange} {e : Event} {number : Nat} {completion : Completion}
    (h : .applied number completion ∈ x.happenings e) : (number, completion) ∈ x.queued := by
  rcases List.mem_append.mp h with happlied | h
  · cases e with
    | poll => simpa [appliedBy] using happlied
    | _ => cases happlied
  · rcases List.mem_append.mp h with hissued | hasked
    · obtain ⟨number, fetch, h⟩ := eq_issued_of_mem_entries (List.mem_of_mem_take hissued)
      cases h
    · cases e with
      | setParams | setRange | refresh => simp [askedBy] at hasked
      | _ => cases hasked

/-- Without them a run does not. -/
theorem replaced_not_mem_history {events : List Event} (h : ∀ e ∈ events, ¬ e.replaces)
    (x : Exchange) : .replaced ∉ x.history events := by
  induction events generalizing x with
  | nil => exact List.not_mem_nil
  | cons e events ih =>
    rw [List.forall_mem_cons] at h
    rw [history, List.mem_append, not_or]
    exact ⟨ih h.2 _, fun hmem => h.1 (replaces_of_replaced_mem hmem)⟩

/-! ### Steps -/

/-- Applies the completion that has waited longest. -/
def deliver (x : Exchange) : Exchange :=
  match x.arrived with
  | [] => x
  | completion :: rest =>
    { x with controller := x.controller.apply completion, arrived := rest }

/-- Fires what is due. -/
def fire (x : Exchange) : Exchange :=
  { x with controller := (x.controller.fireDue x.now).1 }

/-- **A step**: the single things that can happen to an exchange, with what each adds to the history.
-/
inductive Step (x : Exchange) : List Happening → Exchange → Prop where
  /-- Time passes. -/
  | wait (millis : Nat) : Step x [] { x with now := x.now + millis }
  /-- The user picks a row, filters or turns labels round. -/
  | look (highlight : Option UInt64) (filter : String) (direction : Direction) :
    Step x [] { x with controller := { x.controller with
      view := { x.controller.view with highlight, filter, direction } } }
  /-- The user switches the renderers. -/
  | turn (mode : Mode) :
    Step x [] { x with controller := { x.controller with
      view := { x.controller.view with highlight := none, mode } } }
  /-- Table and flame graph are asked for. -/
  | trigger : Step x [.triggered x.now] { x with controller := x.controller.refresh x.now }
  /-- The context is replaced. -/
  | replace (context : Context) :
    Step x [.triggered x.now, .replaced] { x with
      controller := { x.controller with context }.invalidateTopology.refresh x.now }
  /-- Rows are fetched in an order. -/
  | sort (directive : String) :
    Step x [.issued x.controller.requestsIssued (x.controller.context.sortFetch directive)]
      { x with controller := x.controller.sortBy directive }
  /-- The call graph is fetched, as it is neither there nor on its way. -/
  | ask (htopology : x.controller.view.topology = "")
      (hflight : x.controller.topologyInFlight = none) :
    Step x [.issued x.controller.requestsIssued
        (x.controller.context.graphFetch x.controller.generation)]
      { x with controller := x.controller.requestTopology }
  /-- Table and flame graph are fetched, as their deadline has come. -/
  | fetch {deadline : Nat} (hpending : x.controller.debouncer.pending = [(.diagrams, deadline)])
      (hdue : deadline ≤ x.now) :
    Step x [.issued x.controller.requestsIssued x.controller.context.chartsFetch]
      { x with controller := x.controller.unscheduled.fetchCharts }
  /-- The backend answers a request. -/
  | answer (number : Nat) (outcome : Outcome) : Step x [] (x.answer number fun _ => outcome)
  /-- The completion that has waited longest is applied. -/
  | deliver {number : Nat} {completion : Completion} {rest : List (Nat × Completion)}
      (hqueued : x.queued = (number, completion) :: rest) :
    Step x [.applied number completion] x.deliver

/-- Steps one after the other, with what they add to the history together. -/
inductive Steps (x : Exchange) : List Happening → Exchange → Prop where
  /-- No step. -/
  | refl : Steps x [] x
  /-- One step more. -/
  | tail {y z : Exchange} {past news : List Happening} :
    Steps x past y → Step y news z → Steps x (news ++ past) z

/-- **A course**: an exchange that steps lead to from a new one, and the history on the way. -/
inductive Course : Exchange → List Happening → Prop where
  /-- A new controller asks for its first fetch. -/
  | start (context : Context) (quiet : Nat) (mode : Mode) :
    Course (.new context quiet mode) [.triggered 0]
  /-- One step more. -/
  | step {x y : Exchange} {past news : List Happening} :
    Course x past → Step x news y → Course y (news ++ past)

theorem Steps.one {x y : Exchange} {news : List Happening} (h : Step x news y) :
    Steps x news y := by
  simpa using Steps.tail .refl h

theorem Steps.trans {x y z : Exchange} {past news : List Happening} (h₁ : Steps x past y)
    (h₂ : Steps y news z) : Steps x (news ++ past) z := by
  induction h₂ with
  | refl => exact h₁
  | tail _ hs ih => rw [List.append_assoc]; exact ih.tail hs

theorem Course.steps {x y : Exchange} {past news : List Happening} (hx : Course x past)
    (h : Steps x news y) : Course y (news ++ past) := by
  induction h with
  | refl => exact hx
  | tail _ hs ih => rw [List.append_assoc]; exact ih.step hs

/-! ### What waits in a course -/

theorem answer_cases (x : Exchange) (number : Nat) (reply : Request → Outcome) :
    x.answer number reply = x ∨
      ∃ fetch, number ∉ x.answered ∧ x.fetch? number = some fetch ∧
        x.answer number reply =
          { x with answered := number :: x.answered,
                   arrived := x.arrived ++ [⟨fetch.purpose, reply fetch.request⟩] } := by
  by_cases hanswered : number ∈ x.answered
  · exact .inl (by simp [answer, hanswered])
  · cases hfetch : x.fetch? number with
    | none => exact .inl (by simp [answer, hanswered, hfetch])
    | some fetch => exact .inr ⟨fetch, hanswered, rfl, by simp [answer, hanswered, hfetch]⟩

/-- The head of the queue is the completion that is applied next. -/
theorem deliver_eq {x : Exchange} {number : Nat} {completion : Completion}
    {rest : List (Nat × Completion)} (h : x.queued = (number, completion) :: rest) :
    ∃ later, x.arrived = completion :: later ∧
      x.deliver = { x with controller := x.controller.apply completion, arrived := later } := by
  cases harrived : x.arrived with
  | nil => simp [queued, harrived] at h
  | cons first later =>
    have hfirst : first = completion := by
      rw [queued, harrived] at h
      cases hnumbers : (x.answered.take (first :: later).length).reverse with
      | nil =>
        rw [hnumbers, List.zip_nil_left] at h
        cases h
      | cons n numbers =>
        rw [hnumbers, List.zip_cons_cons, List.cons.injEq, Prod.mk.injEq] at h
        exact h.1.2
    exact ⟨later, by rw [hfirst], by rw [deliver, harrived, hfirst]⟩

/-- The backend does not touch the controller. -/
theorem answer_controller (x : Exchange) (number : Nat) (reply : Request → Outcome) :
    (x.answer number reply).controller = x.controller := by
  unfold answer
  split
  · rfl
  · split <;> rfl

theorem deliver_controller {x : Exchange} {number : Nat} {completion : Completion}
    {rest : List (Nat × Completion)} (h : x.queued = (number, completion) :: rest) :
    x.deliver.controller = x.controller.apply completion := by
  obtain ⟨later, -, hdeliver⟩ := deliver_eq h
  rw [hdeliver]

/-- Every completion in the queue belongs to an answered request. -/
theorem Course.room {x : Exchange} {past : List Happening} (h : Course x past) :
    x.arrived.length ≤ x.answered.length := by
  induction h with
  | start => exact Nat.le_refl _
  | @step x _ _ _ _ hs ih =>
    cases hs with
    | answer number outcome =>
      rcases x.answer_cases number fun _ => outcome with h | ⟨fetch, -, -, h⟩ <;> rw [h]
      · exact ih
      · simpa using ih
    | deliver hqueued =>
      obtain ⟨later, harrived, hdeliver⟩ := deliver_eq hqueued
      rw [harrived, List.length_cons] at ih
      rw [hdeliver]
      exact Nat.le_of_lt ih
    | wait | look | turn | trigger | replace | sort | ask | fetch => exact ih

/-- **What is pending**: table and flame graph, if they are awaited, a quiet period after they were
last asked for. -/
theorem Course.pending {x : Exchange} {past : List Happening} (h : Course x past) :
    x.controller.debouncer.pending =
      (awaited past).toList.map fun time => (.diagrams, time + x.controller.debouncer.quiet) := by
  induction h with
  | start => rfl
  | @step x _ _ _ _ hs ih =>
    cases hs with
    | wait | look | turn | sort => exact ih
    | trigger => exact Debouncer.schedule_pending _ _
    | replace => exact Debouncer.schedule_pending _ _
    | ask =>
      simp only [Controller.requestTopology_debouncer]
      exact ih
    | fetch => rfl
    | answer =>
      rw [answer_controller]
      exact ih
    | deliver hqueued =>
      rw [deliver_controller hqueued, Controller.apply_debouncer]
      exact ih

/-! ### A poll in steps -/

/-- Applies the completions that have waited longest, `k` of them. -/
def deliverFirst (x : Exchange) (k : Nat) : Exchange :=
  { x with controller := (x.arrived.take k).foldl Controller.apply x.controller,
           arrived := x.arrived.drop k }

/-- A poll fires what is due and then empties the queue. -/
theorem poll_eq (x : Exchange) : x.poll.1 = x.fire.deliverFirst x.arrived.length := by
  simp only [deliverFirst, fire, List.take_length, List.drop_length]
  rfl

/-- The completion that has waited longest heads the queue, under the number that comes after those
of the rest. -/
theorem queued_cons {x : Exchange} {completion : Completion} {rest : List Completion}
    (h : x.arrived = completion :: rest) (hlt : rest.length < x.answered.length) :
    x.queued = (x.answered[rest.length], completion) :: x.deliver.queued := by
  simp only [queued, deliver, h, List.length_cons]
  rw [List.take_add_one, List.getElem?_eq_getElem hlt, Option.toList_some, List.reverse_append,
    List.reverse_singleton, List.singleton_append, List.zip_cons_cons]

/-- An answer goes to the end of the queue. -/
theorem queued_concat {x y : Exchange} {number : Nat} {completion : Completion}
    (hanswered : y.answered = number :: x.answered)
    (harrived : y.arrived = x.arrived ++ [completion])
    (hroom : x.arrived.length ≤ x.answered.length) :
    y.queued = x.queued ++ [(number, completion)] := by
  have hlength : (x.answered.take x.arrived.length).reverse.length = x.arrived.length := by
    rw [List.length_reverse, List.length_take, Nat.min_eq_left hroom]
  simp only [queued, hanswered, harrived, List.length_append, List.length_singleton,
    List.take_succ_cons, List.reverse_cons]
  rw [List.zip_append hlength, List.zip_cons_cons, List.zip_nil_right]

/-- Completions leave the queue one after the other. -/
inductive Deliveries : Exchange → List Happening → Exchange → Prop where
  /-- None. -/
  | nil (x : Exchange) : Deliveries x [] x
  /-- The one that has waited longest, and then others. -/
  | cons {x y : Exchange} {news : List Happening} {number : Nat} {completion : Completion}
      {rest : List (Nat × Completion)} (hqueued : x.queued = (number, completion) :: rest) :
    Deliveries x.deliver news y → Deliveries x (news ++ [.applied number completion]) y

theorem Deliveries.steps {x y : Exchange} {news : List Happening} (h : Deliveries x news y) :
    Steps x news y := by
  induction h with
  | nil => exact .refl
  | cons hqueued _ ih => exact (Steps.one (.deliver hqueued)).trans ih

theorem deliverFirst_deliveries (k : Nat) {x : Exchange}
    (hroom : x.arrived.length ≤ x.answered.length) :
    Deliveries x ((x.queued.take k).map fun p => .applied p.1 p.2).reverse (x.deliverFirst k) := by
  induction k generalizing x with
  | zero => exact .nil x
  | succ k ih =>
    cases harrived : x.arrived with
    | nil =>
      obtain ⟨controller, now, answered, arrived⟩ := x
      simp only at harrived
      subst harrived
      simpa [queued, deliverFirst] using Deliveries.nil _
    | cons completion rest =>
      rw [harrived, List.length_cons] at hroom
      have hqueued := queued_cons harrived hroom
      have hdeliver : x.deliver =
          { x with controller := x.controller.apply completion, arrived := rest } := by
        rw [deliver, harrived]
      have hrest : x.deliver.arrived.length ≤ x.deliver.answered.length := by
        rw [hdeliver]
        exact Nat.le_of_lt hroom
      have hfirst : x.deliverFirst (k + 1) = x.deliver.deliverFirst k := by
        rw [hdeliver, deliverFirst, deliverFirst, harrived]
        rfl
      rw [hfirst, hqueued, List.take_succ_cons, List.map_cons, List.reverse_cons]
      exact .cons hqueued (ih hrest)

theorem issuedSince_self {x y : Exchange} (h : y.controller.ledger = x.controller.ledger) :
    issuedSince x y = [] := by
  simp [issuedSince, Controller.requestsIssued, h]

theorem issuedSince_cons {x y : Exchange} {fetch : Fetch}
    (h : y.controller.ledger = fetch :: x.controller.ledger) :
    issuedSince x y = [.issued x.controller.requestsIssued fetch] := by
  simp [issuedSince, Controller.requestsIssued, h, entries]

theorem drop_entries (new old : List Fetch) :
    (entries (new ++ old)).drop new.length = entries old := by
  induction new with
  | nil => rfl
  | cons fetch new ih => exact ih

/-- What is issued in two stretches, one after the other. -/
theorem issuedSince_append {x y z : Exchange} {early late : List Fetch}
    (hxy : y.controller.ledger = early ++ x.controller.ledger)
    (hyz : z.controller.ledger = late ++ y.controller.ledger) :
    issuedSince x z = issuedSince y z ++ issuedSince x y := by
  have hearly : issuedSince x y = (entries y.controller.ledger).take early.length := by
    simp [issuedSince, Controller.requestsIssued, hxy]
  have hlate : issuedSince y z = (entries z.controller.ledger).take late.length := by
    simp [issuedSince, Controller.requestsIssued, hyz]
  have hboth : issuedSince x z =
      (entries z.controller.ledger).take (late.length + early.length) := by
    simp [issuedSince, Controller.requestsIssued, hyz, hxy, ← Nat.add_assoc]
  have hdrop : (entries z.controller.ledger).drop late.length = entries y.controller.ledger := by
    rw [hyz, drop_entries]
  rw [hboth, hlate, hearly, List.take_add, hdrop]

/-- Asking for the call graph is a step, or nothing at all. -/
theorem requestTopology_steps (x : Exchange) :
    Steps x (issuedSince x { x with controller := x.controller.requestTopology })
      { x with controller := x.controller.requestTopology } := by
  by_cases h : x.controller.TopologyMissing
  · rw [issuedSince_cons (by rw [Controller.requestTopology_of_missing h]; rfl)]
    exact .one (.ask h.1 h.2)
  · rw [issuedSince_self (by rw [Controller.requestTopology_of_present h]),
      Controller.requestTopology_of_present h]
    exact .refl

theorem setMode_steps (x : Exchange) (mode : Mode) :
    Steps x (issuedSince x (x.handle (.setMode mode))) (x.handle (.setMode mode)) := by
  have hturn : Steps x [] { x with controller := x.controller.turned mode } := .one (.turn mode)
  by_cases hsame : mode = x.controller.view.mode
  · have hx : x.handle (.setMode mode) = x := by
      rw [handle, hsame, Controller.setMode_same]
    rw [hx, issuedSince_self rfl]
    exact .refl
  · by_cases htopo : mode = .topo
    · subst htopo
      have hx : x.handle (.setMode .topo) =
          { x with controller := (x.controller.turned .topo).requestTopology } := by
        rw [handle, Controller.setMode_topo (Ne.symm hsame)]
      have hask := hturn.trans
        (requestTopology_steps { x with controller := x.controller.turned .topo })
      rw [List.append_nil] at hask
      rw [hx]
      exact hask
    · have hx : x.handle (.setMode mode) = { x with controller := x.controller.turned mode } := by
        rw [handle, Controller.setMode_other hsame htopo]
      rw [hx, issuedSince_self (by rfl)]
      exact hturn

/-- Before the deadline a poll fires nothing. -/
theorem Course.fire_of_early {x : Exchange} {past : List Happening} (h : Course x past)
    (hearly : ∀ time, awaited past = some time →
      x.now < time + x.controller.debouncer.quiet) : x.fire = x := by
  have hpending := h.pending
  cases hawaited : awaited past with
  | none =>
    rw [hawaited] at hpending
    rw [fire, Controller.fireDue_of_empty hpending]
  | some time =>
    rw [hawaited] at hpending
    rw [fire, Controller.fireDue_of_early hpending (hearly time hawaited)]

/-- Once the deadline has come a poll fetches table and flame graph. -/
theorem Course.fire_of_due {x : Exchange} {past : List Happening} (h : Course x past) {time : Nat}
    (hawaited : awaited past = some time) (hdue : time + x.controller.debouncer.quiet ≤ x.now) :
    x.fire = { x with controller := x.controller.unscheduled.fetchDiagrams } := by
  have hpending := h.pending
  rw [hawaited] at hpending
  rw [fire, Controller.fireDue_of_due hpending hdue]

theorem Course.fire_steps {x : Exchange} {past : List Happening} (h : Course x past) :
    Steps x (issuedSince x x.fire) x.fire := by
  by_cases hdue : ∃ time, awaited past = some time ∧
      time + x.controller.debouncer.quiet ≤ x.now
  · obtain ⟨time, hawaited, hdue⟩ := hdue
    have hpending := h.pending
    rw [hawaited] at hpending
    have hfetch := Steps.one (Step.fetch hpending hdue)
    have hcharts : issuedSince x { x with controller := x.controller.unscheduled.fetchCharts } =
        [.issued x.controller.requestsIssued x.controller.context.chartsFetch] :=
      issuedSince_cons rfl
    rw [h.fire_of_due hawaited hdue]
    by_cases hmode : x.controller.unscheduled.view.mode = .topo
    · obtain ⟨late, hlate, -⟩ := x.controller.unscheduled.fetchCharts.requestTopology_ledger
      have hearly : x.controller.unscheduled.fetchCharts.ledger =
          [x.controller.context.chartsFetch] ++ x.controller.ledger := rfl
      have hboth := issuedSince_append
        (y := { x with controller := x.controller.unscheduled.fetchCharts })
        (z := { x with controller := x.controller.unscheduled.fetchCharts.requestTopology })
        hearly hlate
      rw [Controller.fetchDiagrams_topo hmode, hboth, hcharts]
      exact hfetch.trans
        (requestTopology_steps { x with controller := x.controller.unscheduled.fetchCharts })
    · rw [Controller.fetchDiagrams_other hmode, hcharts]
      exact hfetch
  · have hx : x.fire = x := by
      refine h.fire_of_early fun time hawaited => ?_
      exact Nat.lt_of_not_le fun hle => hdue ⟨time, hawaited, hle⟩
    rw [hx, issuedSince_self rfl]
    exact .refl

/-- What no completion changes is the same after any number of them. -/
theorem foldl_apply_eq {α : Type} {f : Controller → α}
    (hf : ∀ c completion, f (Controller.apply c completion) = f c) (completions : List Completion)
    (c : Controller) : f (completions.foldl Controller.apply c) = f c := by
  induction completions generalizing c with
  | nil => rfl
  | cons completion completions ih => rw [List.foldl_cons, ih, hf]

/-- A poll empties the queue after it has fired what is due. -/
theorem Course.poll_deliveries {x : Exchange} {past : List Happening} (h : Course x past) :
    Deliveries x.fire (x.appliedBy .poll) (x.handle .poll) := by
  have hlength : x.queued.length ≤ x.arrived.length := by
    rw [queued, List.length_zip]
    exact Nat.min_le_right _ _
  have hall := deliverFirst_deliveries x.arrived.length (x := x.fire) h.room
  rw [show x.fire.queued = x.queued from rfl, List.take_of_length_le hlength, ← poll_eq] at hall
  exact hall

theorem poll_ledger (x : Exchange) :
    (x.handle .poll).controller.ledger = x.fire.controller.ledger := by
  rw [handle, poll_eq]
  exact foldl_apply_eq Controller.apply_ledger _ _

theorem happenings_poll (x : Exchange) :
    x.happenings .poll = x.appliedBy .poll ++ issuedSince x x.fire := by
  have hissued : issuedSince x (x.handle .poll) = issuedSince x x.fire := by
    simp only [issuedSince, Controller.requestsIssued, poll_ledger]
  rw [happenings, hissued, show x.askedBy .poll = [] from rfl, List.append_nil]

/-! ### A run in steps -/

theorem run_append (x : Exchange) (early late : List Event) :
    x.run (early ++ late) = (x.run early).run late :=
  List.foldl_append ..

/-- **What an event does, in steps.** -/
theorem Course.handle_steps {x : Exchange} {past : List Happening} (h : Course x past) (e : Event) :
    Steps x (x.happenings e) (x.handle e) := by
  cases e with
  | setParams params =>
    rw [happenings, issuedSince_self (by rfl)]
    exact .one (.replace { x.controller.context with params })
  | setRange range =>
    rw [happenings, issuedSince_self (by rfl)]
    exact .one (.replace { x.controller.context with range })
  | refresh =>
    rw [happenings, issuedSince_self (by rfl)]
    exact .one .trigger
  | setMode mode =>
    rw [happenings, show x.askedBy (.setMode mode) = [] from rfl, List.append_nil]
    exact setMode_steps x mode
  | sortBy directive =>
    rw [happenings, issuedSince_cons (by rfl)]
    exact .one (.sort directive)
  | highlight id =>
    rw [happenings, issuedSince_self (by rfl)]
    exact .one (.look id x.controller.view.filter x.controller.view.direction)
  | setFilter filter =>
    rw [happenings, issuedSince_self (by rfl)]
    exact .one (.look x.controller.view.highlight filter x.controller.view.direction)
  | toggleDirection =>
    rw [happenings, issuedSince_self (by rfl)]
    exact .one (.look x.controller.view.highlight x.controller.view.filter
      x.controller.view.direction.toggle)
  | advance millis =>
    rw [happenings, issuedSince_self (by rfl)]
    exact .one (.wait millis)
  | poll =>
    rw [happenings_poll]
    exact h.fire_steps.trans h.poll_deliveries.steps
  | answer number outcome =>
    have hledger : (x.handle (.answer number outcome)).controller.ledger = x.controller.ledger := by
      rw [handle, answer_controller]
    rw [happenings, issuedSince_self hledger]
    exact .one (.answer number outcome)

/-- **What a run does, in steps.** -/
theorem Course.run_steps {x : Exchange} {past : List Happening} (h : Course x past)
    (events : List Event) : Steps x (history x events) (x.run events) := by
  induction events generalizing x past with
  | nil => exact .refl
  | cons e events ih =>
    have he := h.handle_steps e
    exact he.trans (ih (h.steps he))

/-- Every run from a new controller is a course. -/
theorem course_run (context : Context) (quiet : Nat) (mode : Mode) (events : List Event) :
    Course ((Exchange.new context quiet mode).run events)
      (history (.new context quiet mode) events ++ [.triggered 0]) :=
  (Course.start context quiet mode).steps ((Course.start context quiet mode).run_steps events)

end Exchange

end ProfileBrowser
