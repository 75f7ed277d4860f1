import ProfileBrowser.Proofs.Accounts
/-!
# The call graph

The call graph is kept until the context changes and never requested twice. Three things have to stay
in step for this: the text that is shown, the note that a request is on its way, and the requests
themselves, of which some may be for contexts that have been replaced since. `TopologyKept` says how
they hang together; it holds along every course (`Course.topologyKept`).
-/

namespace ProfileBrowser

/-- A request that has nothing to do with the call graph. -/
structure Fetch.Graphless (fetch : Fetch) : Prop where
  kinds : ¬ fetch.request.wants .callgraph
  purpose : ∀ generation, fetch.purpose ≠ .topology generation

theorem Context.sortFetch_graphless (context : Context) (directive : String) :
    (context.sortFetch directive).Graphless :=
  ⟨by simp [sortFetch, request, Request.make, Request.wants], fun _ h => by cases h⟩

theorem Context.chartsFetch_graphless (context : Context) : context.chartsFetch.Graphless :=
  ⟨by simp [chartsFetch, request, Request.make, Request.wants], fun _ h => by cases h⟩

namespace Exchange

/-! ### Requests that later happenings leave as they are -/

section Later

variable {past news : List Happening} {number : Nat} {fetch : Fetch} {outcome : Outcome}

theorem Outstanding.of_append (h : Outstanding (news ++ past) number fetch)
    (hnews : .issued number fetch ∉ news) : Outstanding past number fetch := by
  obtain ⟨hissued, hopen⟩ := h
  refine ⟨(List.mem_append.mp hissued).resolve_left hnews, fun completion happlied => ?_⟩
  exact hopen completion (List.mem_append_right _ happlied)

theorem Outstanding.append (h : Outstanding past number fetch)
    (hnews : ∀ completion, .applied number completion ∉ news) :
    Outstanding (news ++ past) number fetch := by
  obtain ⟨hissued, hopen⟩ := h
  refine ⟨List.mem_append_right _ hissued, fun completion happlied => ?_⟩
  exact (List.mem_append.mp happlied).elim (hnews completion) (hopen completion)

theorem Answered.append (h : Answered past number fetch outcome) (news : List Happening) :
    Answered (news ++ past) number fetch outcome :=
  ⟨List.mem_append_right _ h.1, List.mem_append_right _ h.2⟩

end Later

/-! ### How the parts agree -/

/-- **What is shown of the call graph, what is noted as on its way and what has been requested
agree.** -/
structure TopologyKept (context : Context) (generation : Nat) (topology : String)
    (inFlight : Option Nat) (past : List Happening) : Prop where
  /-- No request is for a context that is still to come. -/
  bounded : ∀ number fetch g, .issued number fetch ∈ past → fetch.purpose = .topology g →
    g ≤ generation
  /-- The requests with the number of the context are those for a call graph since it came. -/
  tagged : ∀ number fetch, .issued number fetch ∈ past →
    (fetch.purpose = .topology generation ↔
      .issued number fetch ∈ recent past ∧ fetch.request.wants .callgraph)
  /-- They carry the context. -/
  carried : ∀ number fetch, .issued number fetch ∈ past → fetch.purpose = .topology generation →
    fetch = context.graphFetch generation
  /-- Without a note none of them is outstanding. -/
  idle : inFlight = none → ∀ number fetch, Outstanding past number fetch →
    fetch.purpose ≠ .topology generation
  /-- A note is for the context, and exactly one of them is outstanding. -/
  busy : ∀ g, inFlight = some g → g = generation ∧
    ∃ number, Outstanding past number (context.graphFetch generation) ∧
      ∀ n fetch, Outstanding past n fetch → fetch.purpose = .topology generation → n = number
  /-- What is shown is the answer to one of them, and there is no note. -/
  shown : topology ≠ "" → inFlight = none ∧
    ∃ number d, Answered (recent past) number (context.graphFetch generation) (.data d) ∧
      topology = d.topology

namespace TopologyKept

variable {context : Context} {generation : Nat} {topology : String} {inFlight : Option Nat}
  {past news : List Happening}

/-- At the start nothing has been requested. -/
theorem start (context : Context) (generation time : Nat) :
    TopologyKept context generation "" none [.triggered time] where
  bounded := by simp
  tagged := by simp
  carried := by simp
  idle := by simp [Outstanding]
  busy := by simp
  shown := by simp

/-- Happenings that have nothing to do with the call graph of the context change nothing. -/
theorem aside (h : TopologyKept context generation topology inFlight past)
    (hreplaced : .replaced ∉ news)
    (hissued : ∀ number fetch, .issued number fetch ∈ news → fetch.Graphless)
    (happlied : ∀ number completion fetch, .applied number completion ∈ news →
      .issued number fetch ∈ past → fetch.purpose ≠ .topology generation) :
    TopologyKept context generation topology inFlight (news ++ past) := by
  have hrecent := recent_append hreplaced past
  have hpast : ∀ {number fetch g}, .issued number fetch ∈ news ++ past →
      fetch.purpose = .topology g → .issued number fetch ∈ past := fun hmem hpurpose =>
    (List.mem_append.mp hmem).resolve_left fun hnew => (hissued _ _ hnew).purpose _ hpurpose
  have hback : ∀ {number fetch}, Outstanding (news ++ past) number fetch →
      fetch.purpose = .topology generation → Outstanding past number fetch := fun hopen hpurpose =>
    hopen.of_append fun hnew => (hissued _ _ hnew).purpose _ hpurpose
  constructor
  · exact fun number fetch g hmem hpurpose => h.bounded _ _ _ (hpast hmem hpurpose) hpurpose
  · intro number fetch hmem
    rw [hrecent, List.mem_append]
    constructor
    · intro hpurpose
      obtain ⟨hmem, hwants⟩ := (h.tagged _ _ (hpast hmem hpurpose)).mp hpurpose
      exact ⟨.inr hmem, hwants⟩
    · rintro ⟨hnew | hold, hwants⟩
      · exact absurd hwants (hissued _ _ hnew).kinds
      · exact (h.tagged _ _ (mem_of_mem_recent hold)).mpr ⟨hold, hwants⟩
  · exact fun number fetch hmem hpurpose => h.carried _ _ (hpast hmem hpurpose) hpurpose
  · exact fun hnone number fetch hopen hpurpose =>
      h.idle hnone _ _ (hback hopen hpurpose) hpurpose
  · intro g hg
    obtain ⟨hgeneration, number, hopen, hunique⟩ := h.busy g hg
    refine ⟨hgeneration, number, hopen.append fun completion hnew => ?_, ?_⟩
    · exact happlied _ _ _ hnew hopen.1 rfl
    · exact fun n fetch hn hpurpose => hunique _ _ (hback hn hpurpose) hpurpose
  · intro hne
    obtain ⟨hnone, number, d, hanswered, htopology⟩ := h.shown hne
    rw [hrecent]
    exact ⟨hnone, number, d, hanswered.append news, htopology⟩

/-- A new context has no call graph, and no request is for it. -/
theorem replace (h : TopologyKept context generation topology inFlight past) (fresh : Context)
    (time : Nat) :
    TopologyKept fresh (generation + 1) "" none (.triggered time :: .replaced :: past) := by
  have hnone : ∀ number fetch,
      .issued number fetch ∈ .triggered time :: Happening.replaced :: past →
        fetch.purpose ≠ .topology (generation + 1) := by
    intro number fetch hmem hpurpose
    have := h.bounded number fetch _ (by simpa using hmem) hpurpose
    omega
  constructor
  · intro number fetch g hmem hpurpose
    have := h.bounded number fetch g (by simpa using hmem) hpurpose
    omega
  · intro number fetch hmem
    constructor
    · exact fun hpurpose => absurd hpurpose (hnone _ _ hmem)
    · rintro ⟨hrecent, -⟩
      simp at hrecent
  · exact fun number fetch hmem hpurpose => absurd hpurpose (hnone _ _ hmem)
  · exact fun _ number fetch hopen => hnone _ _ hopen.1
  · intro g hg
    cases hg
  · exact fun hne => absurd rfl hne

/-- A request for the call graph, made when none is there or on its way. -/
theorem ask (h : TopologyKept context generation "" none past) {number : Nat}
    (hfresh : ∀ completion, .applied number completion ∉ past) :
    TopologyKept context generation "" (some generation)
      (.issued number (context.graphFetch generation) :: past) := by
  have hopen : Outstanding (.issued number (context.graphFetch generation) :: past) number
      (context.graphFetch generation) :=
    ⟨List.mem_cons_self, fun completion happlied => hfresh completion (by simpa using happlied)⟩
  constructor
  · intro n fetch g hmem hpurpose
    rcases List.mem_cons.mp hmem with heq | hold
    · cases heq
      cases hpurpose
      exact Nat.le_refl _
    · exact h.bounded _ _ _ hold hpurpose
  · intro n fetch hmem
    rw [recent_issued, List.mem_cons]
    constructor
    · intro hpurpose
      rcases List.mem_cons.mp hmem with heq | hold
      · cases heq
        exact ⟨.inl rfl, rfl⟩
      · obtain ⟨hrecent, hwants⟩ := (h.tagged _ _ hold).mp hpurpose
        exact ⟨.inr hrecent, hwants⟩
    · rintro ⟨heq | hrecent, hwants⟩
      · cases heq
        rfl
      · exact (h.tagged _ _ (mem_of_mem_recent hrecent)).mpr ⟨hrecent, hwants⟩
  · intro n fetch hmem hpurpose
    rcases List.mem_cons.mp hmem with heq | hold
    · cases heq
      rfl
    · exact h.carried _ _ hold hpurpose
  · intro hnone
    cases hnone
  · intro g hg
    cases hg
    refine ⟨rfl, number, hopen, fun n fetch hn hpurpose => ?_⟩
    rcases List.mem_cons.mp hn.1 with heq | hold
    · cases heq
      rfl
    · -- an older one would be outstanding without a note
      have hn' : Outstanding past n fetch :=
        ⟨hold, fun completion happlied => hn.2 completion (List.mem_cons_of_mem _ happlied)⟩
      exact absurd hpurpose (h.idle rfl _ _ hn')
  · exact fun hne => absurd rfl hne

/-- The completion of the request for the call graph of the context. -/
theorem deliver (h : TopologyKept context generation topology (some generation) past)
    {number : Nat} {fetch : Fetch} (hopen : Outstanding past number fetch)
    (hpurpose : fetch.purpose = .topology generation) (outcome : Outcome) :
    TopologyKept context generation outcome.topology none
      (.applied number ⟨.topology generation, outcome⟩ :: past) := by
  obtain ⟨-, only, -, hunique⟩ := h.busy _ rfl
  have hpast : ∀ {n f}, .issued n f ∈ .applied number ⟨.topology generation, outcome⟩ :: past →
      .issued n f ∈ past := fun hmem => by simpa using hmem
  constructor
  · exact fun n f g hmem => h.bounded n f g (hpast hmem)
  · intro n f hmem
    rw [h.tagged n f (hpast hmem), recent_applied, List.mem_cons]
    simp
  · exact fun n f hmem => h.carried n f (hpast hmem)
  · intro _ n f hn hf
    -- only one was outstanding, and this is its completion
    have hn' : Outstanding past n f :=
      ⟨hpast hn.1, fun completion happlied => hn.2 completion (List.mem_cons_of_mem _ happlied)⟩
    obtain rfl : n = number := (hunique _ _ hn' hf).trans (hunique _ _ hopen hpurpose).symm
    exact hn.2 _ List.mem_cons_self
  · intro g hg
    cases hg
  · intro hne
    have hfetch := h.carried _ _ hopen.1 hpurpose
    have hrecent := ((h.tagged _ _ hopen.1).mp hpurpose).1
    cases outcome with
    | data d =>
      refine ⟨rfl, number, d, ⟨List.mem_cons_of_mem _ (hfetch ▸ hrecent), ?_⟩, rfl⟩
      exact List.mem_cons_self
    | empty | failed => exact absurd rfl hne

end TopologyKept

/-! ### Completions -/

section Completions

variable {x : Exchange} {c : Controller} {past : List Happening}

/-- A note is for the context, so a call graph of another one is dropped without a trace. -/
theorem TopologyKept.apply_stale
    (h : TopologyKept c.context c.generation c.view.topology c.topologyInFlight past) {g : Nat}
    (hg : g ≠ c.generation) (outcome : Outcome) :
    c.apply ⟨.topology g, outcome⟩ =
      { c with inFlight := c.inFlight - 1, view := { c.view with isLoading := false } } :=
  Controller.apply_topology_of_stale hg (fun hflight => hg (h.busy g hflight).1) outcome

/-- A completion that is not for the call graph of the context leaves the call graph alone. -/
theorem TopologyKept.apply_other
    (h : TopologyKept c.context c.generation c.view.topology c.topologyInFlight past)
    {completion : Completion} (hpurpose : completion.purpose ≠ .topology c.generation) :
    (c.apply completion).view.topology = c.view.topology ∧
      (c.apply completion).topologyInFlight = c.topologyInFlight := by
  by_cases hgraph : ∃ g, completion.purpose = .topology g
  · obtain ⟨purpose, outcome⟩ := completion
    obtain ⟨g, rfl⟩ := hgraph
    have hg : g ≠ c.generation := fun heq => hpurpose (heq ▸ rfl)
    rw [h.apply_stale hg outcome]
    exact ⟨rfl, rfl⟩
  · exact c.apply_topology_of_other fun g hg => hgraph ⟨g, hg⟩

/-- What heads the queue is the completion of an outstanding request. -/
theorem Course.outstanding_of_queued (h : Course x past) {number : Nat} {completion : Completion}
    {rest : List (Nat × Completion)} (hqueued : x.queued = (number, completion) :: rest) :
    ∃ fetch, Outstanding past number fetch ∧ fetch.purpose = completion.purpose := by
  have hmem : (number, completion) ∈ x.queued := by
    rw [hqueued]
    exact List.mem_cons_self
  obtain ⟨fetch, hissued, hpurpose⟩ := h.accounted.waiting _ _ hmem
  exact ⟨fetch, ⟨hissued, h.accounted.not_applied_queued hqueued⟩, hpurpose⟩

/-- The call graph of the context is applied only while it is noted as on its way. -/
theorem TopologyKept.noted
    (h : TopologyKept c.context c.generation c.view.topology c.topologyInFlight past) {number : Nat}
    {fetch : Fetch} (hopen : Outstanding past number fetch)
    (hpurpose : fetch.purpose = .topology c.generation) :
    c.topologyInFlight = some c.generation := by
  cases hflight : c.topologyInFlight with
  | none => exact absurd hpurpose (h.idle hflight _ _ hopen)
  | some g => rw [(h.busy g hflight).1]

end Completions

/-- **The call graph is kept along every course.** -/
theorem Course.topologyKept {x : Exchange} {past : List Happening} (h : Course x past) :
    TopologyKept x.controller.context x.controller.generation x.controller.view.topology
      x.controller.topologyInFlight past := by
  induction h with
  | start => exact .start _ _ _
  | @step x _ past _ hx hs ih =>
    cases hs with
    | wait | look | turn => exact ih
    | trigger => exact ih.aside (by simp) (by simp) (by simp)
    | replace context => exact ih.replace context _
    | sort directive =>
      refine ih.aside (by simp) (fun number fetch hmem => ?_) (by simp)
      cases List.mem_singleton.mp hmem
      exact Context.sortFetch_graphless _ _
    | fetch =>
      refine ih.aside (by simp) (fun number fetch hmem => ?_) (by simp)
      cases List.mem_singleton.mp hmem
      exact Context.chartsFetch_graphless _
    | ask htopology hflight =>
      rw [Controller.requestTopology_of_missing ⟨htopology, hflight⟩]
      rw [htopology, hflight] at ih
      have hask := ih.ask hx.accounted.not_applied_next
      rw [← htopology] at hask
      exact hask
    | answer =>
      rw [answer_controller]
      exact ih
    | @deliver number completion rest hqueued =>
      obtain ⟨fetch, hopen, hpurpose⟩ := hx.outstanding_of_queued hqueued
      rw [deliver_controller hqueued, Controller.apply_context, Controller.apply_generation]
      by_cases hgraph : completion.purpose = .topology x.controller.generation
      · have hflight := ih.noted hopen (hpurpose.trans hgraph)
        obtain ⟨purpose, outcome⟩ := completion
        cases hgraph
        obtain ⟨htopology, hnone⟩ := Controller.apply_topology_of_current hflight outcome
        rw [hflight] at ih
        rw [htopology, hnone]
        exact ih.deliver hopen hpurpose outcome
      · obtain ⟨htopology, hsame⟩ := ih.apply_other hgraph
        rw [htopology, hsame]
        refine ih.aside (by simp) (by simp) fun n applied f hmem hf hwrong => ?_
        cases List.mem_singleton.mp hmem
        have hsingle := hx.accounted.eq_of_issued hf hopen.1
        exact hgraph (hpurpose.symm.trans (hsingle ▸ hwrong))

/-! ### While a call graph is shown -/

variable {x y : Exchange} {past news : List Happening}

/-- A call graph that is shown stays, and no other is requested, unless the context is replaced. -/
theorem Course.step_shown (h : Course x past) (hshown : x.controller.view.topology ≠ "")
    (hs : Step x news y) (hreplaced : .replaced ∉ news) :
    y.controller.view.topology = x.controller.view.topology ∧
      ∃ new, y.controller.ledger = new ++ x.controller.ledger ∧ ∀ fetch ∈ new, fetch.Graphless := by
  cases hs with
  | wait | look | turn | trigger => exact ⟨rfl, [], rfl, by simp⟩
  | replace => exact absurd (by simp) hreplaced
  | sort directive =>
    refine ⟨rfl, [x.controller.context.sortFetch directive], rfl, fun fetch hmem => ?_⟩
    rw [List.mem_singleton.mp hmem]
    exact Context.sortFetch_graphless _ _
  | fetch =>
    refine ⟨rfl, [x.controller.context.chartsFetch], rfl, fun fetch hmem => ?_⟩
    rw [List.mem_singleton.mp hmem]
    exact Context.chartsFetch_graphless _
  | ask htopology => exact absurd htopology hshown
  | answer =>
    rw [answer_controller]
    exact ⟨rfl, [], rfl, by simp⟩
  | @deliver number completion rest hqueued =>
    obtain ⟨fetch, hopen, hpurpose⟩ := h.outstanding_of_queued hqueued
    have hother : completion.purpose ≠ .topology x.controller.generation := fun hgraph =>
      h.topologyKept.idle (h.topologyKept.shown hshown).1 _ _ hopen (hpurpose.trans hgraph)
    rw [deliver_controller hqueued, Controller.apply_ledger]
    exact ⟨(h.topologyKept.apply_other hother).1, [], rfl, by simp⟩

theorem Course.steps_shown (h : Course x past) (hshown : x.controller.view.topology ≠ "")
    (hs : Steps x news y) (hreplaced : .replaced ∉ news) :
    y.controller.view.topology = x.controller.view.topology ∧
      ∃ new, y.controller.ledger = new ++ x.controller.ledger ∧ ∀ fetch ∈ new, fetch.Graphless := by
  induction hs with
  | refl => exact ⟨rfl, [], rfl, by simp⟩
  | @tail y z early late hxy hyz ih =>
    rw [List.mem_append, not_or] at hreplaced
    obtain ⟨hkept, new, hledger, hgraphless⟩ := ih hreplaced.2
    obtain ⟨hkept', new', hledger', hgraphless'⟩ :=
      (h.steps hxy).step_shown (hkept ▸ hshown) hyz hreplaced.1
    refine ⟨hkept'.trans hkept, new' ++ new, ?_, fun fetch hmem => ?_⟩
    · rw [hledger', hledger, List.append_assoc]
    · exact (List.mem_append.mp hmem).elim (hgraphless' fetch) (hgraphless fetch)

/-! ### Safety -/

/-- The completions of a poll are applied to states of a course. -/
theorem Course.deliverFirst (h : Course x past) (k : Nat) :
    ∃ news, Course (x.fire.deliverFirst k) (news ++ past) := by
  have hdeliveries := (deliverFirst_deliveries k (x := x.fire) h.room).steps
  exact ⟨_, h.steps (h.fire_steps.trans hdeliveries)⟩

/-- **The call graph is fetched once for a context, and what is shown is that of the context.** After
any run:
* the requests with the number of the context are those for a call graph since it came; a note says
  that one of them is outstanding, and there are never two;
* a call graph that is shown was answered to one of them, and until an event replaces the context it
  stays and no other is requested;
* the completion of one for another context, applied now or in the course of the next poll, changes
  neither what is shown nor the note nor the last failure. -/
theorem call_graph_once_per_context (context : Context) (quiet : Nat) (mode : Mode)
    (events : List Event) :
    let x := (Exchange.new context quiet mode).run events
    let past := history (.new context quiet mode) events ++ [.triggered 0]
    let c := x.controller
    ((∀ number fetch, .issued number fetch ∈ past →
        (fetch.purpose = .topology c.generation ↔
          .issued number fetch ∈ recent past ∧ fetch.request.wants .callgraph)) ∧
      (c.topologyInFlight = none ∨ c.topologyInFlight = some c.generation) ∧
      (c.topologyInFlight = some c.generation ↔
        ∃ number fetch, Outstanding past number fetch ∧ fetch.purpose = .topology c.generation) ∧
      (∀ m n f g, Outstanding past m f → f.purpose = .topology c.generation →
        Outstanding past n g → g.purpose = .topology c.generation → m = n)) ∧
    (c.view.topology ≠ "" →
      (∃ number d,
        Answered (recent past) number ⟨c.request [.callgraph], .topology c.generation⟩ (.data d) ∧
          .answer number (.data d) ∈ events ∧ c.view.topology = d.topology) ∧
      ∀ more, (∀ e ∈ more, ¬ e.replaces) →
        (x.run more).controller.view.topology = c.view.topology ∧
          ∃ new, (x.run more).controller.ledger = new ++ c.ledger ∧
            ∀ fetch ∈ new, ¬ fetch.request.wants .callgraph) ∧
    (∀ d, (d = c ∨ ∃ k, d = (x.arrived.take k).foldl Controller.apply (c.fireDue x.now).1) →
      ∀ g, g ≠ d.generation → ∀ outcome,
        (d.apply ⟨.topology g, outcome⟩).view.topology = d.view.topology ∧
          (d.apply ⟨.topology g, outcome⟩).topologyInFlight = d.topologyInFlight ∧
          (d.apply ⟨.topology g, outcome⟩).lastFailure = d.lastFailure) := by
  intro x past c
  have h : Course x past := course_run context quiet mode events
  have hkept := h.topologyKept
  refine ⟨⟨hkept.tagged, ?_, ⟨?_, ?_⟩, ?_⟩, fun hshown => ⟨?_, fun more hmore => ?_⟩, ?_⟩
  · cases hflight : c.topologyInFlight with
    | none => exact .inl rfl
    | some g => exact .inr (by rw [(hkept.busy g hflight).1])
  · intro hflight
    obtain ⟨-, number, hopen, -⟩ := hkept.busy _ hflight
    exact ⟨number, _, hopen, rfl⟩
  · rintro ⟨number, fetch, hopen, hpurpose⟩
    exact hkept.noted hopen hpurpose
  · intro m n f g hf hfpurpose hg hgpurpose
    obtain ⟨-, number, -, hunique⟩ := hkept.busy _ (hkept.noted hf hfpurpose)
    exact (hunique _ _ hf hfpurpose).trans (hunique _ _ hg hgpurpose).symm
  · obtain ⟨-, number, d, hanswered, htopology⟩ := hkept.shown hshown
    exact ⟨number, d, hanswered, answer_of_applied_run (mem_of_mem_recent hanswered.2), htopology⟩
  · have hsteps := h.run_steps more
    obtain ⟨hsame, new, hledger, hgraphless⟩ :=
      h.steps_shown hshown hsteps (replaced_not_mem_history hmore x)
    exact ⟨hsame, new, hledger, fun fetch hmem => (hgraphless fetch hmem).kinds⟩
  · intro d hd g hg outcome
    have hd : ∃ past, TopologyKept d.context d.generation d.view.topology d.topologyInFlight past := by
      rcases hd with rfl | ⟨k, rfl⟩
      · exact ⟨_, hkept⟩
      · obtain ⟨news, hcourse⟩ := h.deliverFirst k
        exact ⟨_, hcourse.topologyKept⟩
    obtain ⟨_, hd⟩ := hd
    rw [hd.apply_stale hg outcome]
    exact ⟨rfl, rfl, rfl⟩

end Exchange

end ProfileBrowser
