import ProfileBrowser.Proofs.CallGraph
import ProfileBrowser.Proofs.Refresh
/-!
# The mode of the call graph never starves

The call graph is requested from two places: when its mode is entered, and in its mode together with
table and flame graph. Either place leaves out what is there or on its way, so a request has to be
shown to exist in the end by whichever way the mode was entered and the context replaced. A context is
`Fed` once a request for its call graph is made: the request is outstanding or its completion has been
applied. Until then, in the mode of the call graph, a refresh is pending, and that will make the
request.
-/

namespace ProfileBrowser.Exchange

variable {x y : Exchange} {past news : List Happening}

/-- The call graph of the context with a number is on its way, or has been answered since the context
came. -/
def Fed (generation : Nat) (past : List Happening) : Prop :=
  (∃ number fetch, Outstanding past number fetch ∧ fetch.purpose = .topology generation) ∨
    ∃ number fetch outcome, Answered (recent past) number fetch outcome ∧
      fetch.purpose = .topology generation

/-- What is not missing has been requested. -/
theorem Course.fed_of_not_missing (h : Course x past) (hx : ¬ x.controller.TopologyMissing) :
    Fed x.controller.generation past := by
  have hkept := h.topologyKept
  cases hflight : x.controller.topologyInFlight with
  | some g =>
    obtain ⟨-, number, hopen, -⟩ := hkept.busy g hflight
    exact .inl ⟨number, _, hopen, rfl⟩
  | none =>
    have hshown : x.controller.view.topology ≠ "" := fun htopology => hx ⟨htopology, hflight⟩
    obtain ⟨-, number, d, hanswered, -⟩ := hkept.shown hshown
    exact .inr ⟨number, _, .data d, hanswered, rfl⟩

/-- A context that is fed stays so until it is replaced. -/
theorem Course.fed_append (hx : Course x past) (hy : Course y (news ++ past))
    (hreplaced : .replaced ∉ news) (hfed : Fed x.controller.generation past) :
    Fed x.controller.generation (news ++ past) := by
  have hrecent := recent_append hreplaced past
  rcases hfed with ⟨number, fetch, hopen, hpurpose⟩ | ⟨number, fetch, outcome, hanswered, hpurpose⟩
  · by_cases happlied : ∃ completion, .applied number completion ∈ news
    · obtain ⟨⟨purpose, outcome⟩, happlied⟩ := happlied
      obtain ⟨f, hissued, rfl⟩ := hy.accounted.purpose _ _ (List.mem_append_left _ happlied)
      obtain rfl := hy.accounted.eq_of_issued hissued (List.mem_append_right _ hopen.1)
      obtain ⟨hmem, -⟩ := (hx.topologyKept.tagged _ _ hopen.1).mp hpurpose
      refine .inr ⟨number, f, outcome, ⟨?_, ?_⟩, hpurpose⟩ <;> rw [hrecent]
      · exact List.mem_append_right _ hmem
      · exact List.mem_append_left _ happlied
    · refine .inl ⟨number, fetch, hopen.append fun completion hmem => ?_, hpurpose⟩
      exact happlied ⟨completion, hmem⟩
  · refine .inr ⟨number, fetch, outcome, ?_, hpurpose⟩
    rw [hrecent]
    exact hanswered.append news

/-! ### The number of the context -/

theorem Step.generation (h : Step x news y) (hreplaced : .replaced ∉ news) :
    y.controller.generation = x.controller.generation := by
  cases h with
  | wait | look | turn | trigger | sort | fetch => rfl
  | replace => exact absurd (by simp) hreplaced
  | ask htopology hflight => rw [Controller.requestTopology_of_missing ⟨htopology, hflight⟩]; rfl
  | answer => rw [answer_controller]
  | deliver hqueued => rw [deliver_controller hqueued, Controller.apply_generation]

theorem Steps.generation (h : Steps x news y) (hreplaced : .replaced ∉ news) :
    y.controller.generation = x.controller.generation := by
  induction h with
  | refl => rfl
  | tail _ hs ih =>
    rw [List.mem_append, not_or] at hreplaced
    rw [hs.generation hreplaced.1, ih hreplaced.2]

/-! ### What an event leaves -/

/-- In the mode of the call graph, a refresh is pending or the context is fed. -/
def Provided (x : Exchange) (past : List Happening) : Prop :=
  x.controller.view.mode = .topo →
    x.controller.refreshPending ∨ Fed x.controller.generation past

/-- What neither enters the mode, nor fires the refresh, nor replaces the context, keeps it so. -/
theorem Course.provided_steps (h : Course x past) (hs : Steps x news y)
    (hreplaced : .replaced ∉ news) (hmode : y.controller.view.mode = x.controller.view.mode)
    (hpending : y.controller.debouncer = x.controller.debouncer) (hx : Provided x past) :
    Provided y (news ++ past) := by
  intro htopo
  rw [hs.generation hreplaced, Controller.refreshPending, hpending]
  refine (hx (hmode ▸ htopo)).imp id fun hfed => ?_
  exact h.fed_append (h.steps hs) hreplaced hfed

/-- **After a switch of the renderers**: the mode is entered by way of a request. -/
theorem Course.provided_setMode (h : Course x past) (hx : Provided x past) (mode : Mode) :
    Provided (x.handle (.setMode mode)) (x.happenings (.setMode mode) ++ past) := by
  have hs := h.handle_steps (.setMode mode)
  by_cases hsame : mode = x.controller.view.mode
  · have hy : x.handle (.setMode mode) = x := by
      rw [handle, hsame, Controller.setMode_same]
    have hreplaced : .replaced ∉ x.happenings (.setMode mode) := fun hmem => by
      cases replaces_of_replaced_mem hmem
    exact h.provided_steps hs hreplaced (by rw [hy]) (by rw [hy]) hx
  · by_cases htopo : mode = .topo
    · subst htopo
      have hmissing : ¬ (x.handle (.setMode .topo)).controller.TopologyMissing := by
        rw [handle, Controller.setMode_topo (Ne.symm hsame)]
        exact Controller.not_missing_requestTopology _
      exact fun _ => .inr ((h.steps hs).fed_of_not_missing hmissing)
    · intro hmode
      rw [handle, Controller.setMode_other hsame htopo] at hmode
      exact absurd hmode htopo

/-- **After a poll**: with the refresh the call graph is requested. -/
theorem Course.provided_poll (h : Course x past) (hx : Provided x past) :
    Provided (x.handle .poll) (x.happenings .poll ++ past) := by
  have hreplaced : .replaced ∉ x.happenings .poll := fun hmem => by
    cases replaces_of_replaced_mem hmem
  have hmode : (x.handle .poll).controller.view.mode = x.fire.controller.view.mode := by
    rw [handle, poll_eq]
    exact foldl_apply_eq (f := fun c => c.view.mode) Controller.apply_mode _ _
  have hdebouncer : (x.handle .poll).controller.debouncer = x.fire.controller.debouncer := by
    rw [handle, poll_eq]
    exact foldl_apply_eq Controller.apply_debouncer _ _
  by_cases hdue : ∃ time, awaited past = some time ∧
      time + x.controller.debouncer.quiet ≤ x.now
  · obtain ⟨time, hawaited, hdue⟩ := hdue
    intro htopo
    have hfire := h.fire_of_due hawaited hdue
    have hmissing : ¬ x.fire.controller.TopologyMissing := by
      rw [hmode, hfire] at htopo
      rw [hfire]
      exact Controller.not_missing_fetchDiagrams htopo
    -- the completions that the poll applies afterwards leave the context fed
    have hdeliver := h.poll_deliveries.steps
    rw [happenings_poll, List.mem_append, not_or] at hreplaced
    rw [happenings_poll, List.append_assoc, hdeliver.generation hreplaced.1]
    have hcourse := h.steps h.fire_steps
    exact .inr (hcourse.fed_append (hcourse.steps hdeliver) hreplaced.1
      (hcourse.fed_of_not_missing hmissing))
  · have hfire : x.fire = x := h.fire_of_early fun time hawaited =>
      Nat.lt_of_not_le fun hle => hdue ⟨time, hawaited, hle⟩
    rw [hfire] at hmode hdebouncer
    exact h.provided_steps (h.handle_steps .poll) hreplaced hmode hdebouncer hx

theorem Course.provided_handle (h : Course x past) (hx : Provided x past) (e : Event) :
    Provided (x.handle e) (x.happenings e ++ past) := by
  have hs := h.handle_steps e
  cases e with
  | setParams | setRange | refresh => exact fun _ => .inl (Controller.refresh_pending _ _)
  | setMode mode => exact h.provided_setMode hx mode
  | poll => exact h.provided_poll hx
  | sortBy | highlight | setFilter | toggleDirection | advance =>
    refine h.provided_steps hs (fun hmem => ?_) rfl rfl hx
    cases replaces_of_replaced_mem hmem
  | answer number outcome =>
    refine h.provided_steps hs (fun hmem => ?_) ?_ ?_ hx
    · cases replaces_of_replaced_mem hmem
    · rw [handle, answer_controller]
    · rw [handle, answer_controller]

/-- Every run keeps a context provided for. -/
theorem Course.provided_run (h : Course x past) (hx : Provided x past) (events : List Event) :
    Provided (x.run events) (history x events ++ past) := by
  induction events generalizing x past with
  | nil => exact hx
  | cons e events ih =>
    have hnext := ih (h.steps (h.handle_steps e)) (h.provided_handle hx e)
    rw [← List.append_assoc] at hnext
    exact hnext

/-- **The mode of the call graph never starves.** After any run that ends in the mode of the call
graph, a refresh is pending, the request for the call graph of the context is outstanding, or its
completion has been applied since the context came. -/
theorem call_graph_never_starves (context : Context) (quiet : Nat) (mode : Mode)
    (events : List Event) :
    let x := (Exchange.new context quiet mode).run events
    let past := history (.new context quiet mode) events ++ [.triggered 0]
    let c := x.controller
    let graph : Fetch := ⟨c.request [.callgraph], .topology c.generation⟩
    c.view.mode = .topo →
      c.refreshPending ∨ (∃ number, Outstanding past number graph) ∨
        ∃ number outcome, Answered (recent past) number graph outcome := by
  intro x past c graph htopo
  have h : Course x past := course_run context quiet mode events
  have hstart : Provided (.new context quiet mode) [.triggered 0] := fun _ =>
    .inl (Controller.refresh_pending _ _)
  have hrun : Provided x past := (Course.start context quiet mode).provided_run hstart events
  rcases hrun htopo with
    hpending | ⟨number, fetch, hopen, hpurpose⟩ | ⟨number, fetch, outcome, hanswered, hpurpose⟩
  · exact .inl hpending
  · have hfetch : fetch = graph := h.topologyKept.carried _ _ hopen.1 hpurpose
    exact .inr (.inl ⟨number, hfetch ▸ hopen⟩)
  · have hissued := mem_of_mem_recent hanswered.1
    have hfetch : fetch = graph := h.topologyKept.carried _ _ hissued hpurpose
    exact .inr (.inr ⟨number, outcome, hfetch ▸ hanswered⟩)

/-- The mode is entered after the first fetch, and the parameters are replaced while the call graph
is on its way. -/
theorem call_graph_of_new_parameters :
    let events : List Event := [.advance 300, .poll, .setMode .topo, .setParams .empty]
    let x := (Exchange.new default 300 .combine).run events
    let past := history (.new default 300 .combine) events ++ [.triggered 0]
    let c := x.controller
    let graph : Fetch := ⟨c.request [.callgraph], .topology c.generation⟩
    c.view.mode = .topo ∧
      (c.refreshPending ∨ (∃ number, Outstanding past number graph) ∨
        ∃ number outcome, Answered (recent past) number graph outcome) :=
  ⟨rfl, call_graph_never_starves default 300 .combine
    [.advance 300, .poll, .setMode .topo, .setParams .empty] rfl⟩

end ProfileBrowser.Exchange
