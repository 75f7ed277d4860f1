import ProfileBrowser.Proofs.CallGraph
import ProfileBrowser.Proofs.Cursor
import Mathlib.Data.List.Induction
/-!
# The highlighted row

A row is highlighted when the cursor comes to it. The highlight goes out when the mode is switched, when
table and flame graph are fetched and when rows come in a new order. Rows that come with the flame graph
leave it alone, as their fetch has put it out. But the cursor moves over the old rows while that fetch is
on its way, and then the answer replaces the rows and not the highlight (`highlight_without_row`).

`highlight_of_row` says that this is the only way to lose the row of a highlight, and what ends it.
-/

namespace ProfileBrowser

/-- The highlighted row, if there is one, is a row of the table. -/
def ViewState.Rooted (view : ViewState) : Prop :=
  ∀ id, view.highlight = some id → ∃ row ∈ view.table, row.id = id

theorem ViewState.rooted_of_none {view : ViewState} (h : view.highlight = none) : view.Rooted :=
  fun _ hid => absurd (h.symm.trans hid) nofun

theorem ViewState.Rooted.congr {view view' : ViewState} (h : view.Rooted)
    (hhighlight : view'.highlight = view.highlight) (htable : view'.table = view.table) :
    view'.Rooted := by
  rw [Rooted, hhighlight, htable]
  exact h

/-! ### What puts the highlight out -/

namespace Controller

/-- The request for the call graph leaves the highlight alone. -/
theorem requestTopology_highlight (c : Controller) :
    c.requestTopology.view.highlight = c.view.highlight := by
  by_cases h : c.TopologyMissing
  · rw [requestTopology_of_missing h]
    rfl
  · rw [requestTopology_of_present h]

/-- The fetch of table and flame graph puts it out. -/
theorem fetchDiagrams_highlight (c : Controller) :
    c.fetchDiagrams.view.highlight = none ∧ c.fetchDiagrams.view.table = c.view.table := by
  by_cases hmode : c.view.mode = .topo
  · rw [fetchDiagrams_topo hmode]
    exact ⟨requestTopology_highlight _, (requestTopology_rows _).1⟩
  · rw [fetchDiagrams_other hmode]
    exact ⟨rfl, rfl⟩

/-- A switch of the mode puts it out. -/
theorem setMode_highlight (c : Controller) (mode : Mode) :
    (c.setMode mode).view.highlight = if mode = c.view.mode then c.view.highlight else none := by
  rw [setMode]
  split_ifs
  · rfl
  · exact requestTopology_highlight _
  · rfl

theorem foldl_fetchDiagrams_highlight (due : List Trigger) (c : Controller) :
    let fired := due.foldl (fun c _ => c.fetchDiagrams) c
    fired.view.highlight = (if due.isEmpty then c.view.highlight else none) ∧
      fired.view.table = c.view.table := by
  induction due generalizing c with
  | nil => exact ⟨rfl, rfl⟩
  | cons trigger due ih =>
    obtain ⟨hhighlight, htable⟩ := ih c.fetchDiagrams
    obtain ⟨hnone, hrows⟩ := c.fetchDiagrams_highlight
    exact ⟨hhighlight.trans (by rw [hnone, ite_self]; rfl), htable.trans hrows⟩

/-- What is due puts it out and leaves the rows as they are. -/
theorem fireDue_highlight (c : Controller) (now : Nat) :
    (c.fireDue now).1.view.highlight = (if (c.fireDue now).2 then none else c.view.highlight) ∧
      (c.fireDue now).1.view.table = c.view.table := by
  obtain ⟨hhighlight, htable⟩ := foldl_fetchDiagrams_highlight (c.debouncer.takeDue now).1
    { c with debouncer := (c.debouncer.takeDue now).2 }
  refine ⟨hhighlight.trans ?_, htable⟩
  have hfired : (c.fireDue now).2 = !(c.debouncer.takeDue now).1.isEmpty := rfl
  rw [hfired]
  cases (c.debouncer.takeDue now).1 <;> rfl

/-- A completion puts the highlight out or leaves it; then rows come with the flame graph at most. -/
theorem apply_highlight (c : Controller) (completion : Completion) :
    (c.apply completion).view.highlight = none ∨
      (c.apply completion).view.highlight = c.view.highlight ∧
        ((c.apply completion).view.table = c.view.table ∨
          ∃ d, completion = ⟨.diagrams, .data d⟩ ∧
            (c.apply completion).view.table = d.table) := by
  obtain ⟨purpose, outcome⟩ := completion
  cases purpose with
  | diagrams =>
    cases outcome with
    | data d => exact .inr ⟨rfl, .inr ⟨d, rfl, rfl⟩⟩
    | empty | failed => exact .inr ⟨rfl, .inl rfl⟩
  | sorting =>
    cases outcome with
    | data d => exact .inl rfl
    | empty | failed => exact .inr ⟨rfl, .inl rfl⟩
  | topology generation =>
    refine .inr ⟨?_, .inl (c.apply_charts_of_topology generation outcome).2.2.2⟩
    simp only [apply, applyTopology]
    cases outcome <;> split_ifs <;> rfl

/-- No completion highlights a row. -/
theorem highlight_of_apply {c : Controller} {completion : Completion} {id : UInt64}
    (h : (c.apply completion).view.highlight = some id) : c.view.highlight = some id := by
  rcases c.apply_highlight completion with hnone | ⟨hsame, -⟩
  · exact absurd (hnone.symm.trans h) nofun
  · exact hsame.symm.trans h

/-- **A highlight that is there after completions was there before them**, and the rows have changed
only if some came with the flame graph. -/
theorem highlight_of_foldl_apply {completions : List Completion} {c : Controller} {id : UInt64}
    (h : (completions.foldl apply c).view.highlight = some id) :
    c.view.highlight = some id ∧
      ((completions.foldl apply c).view.table = c.view.table ∨
        ∃ d, ⟨.diagrams, .data d⟩ ∈ completions ∧
          (completions.foldl apply c).view.table = d.table) := by
  induction completions generalizing c with
  | nil => exact ⟨h, .inl rfl⟩
  | cons completion completions ih =>
    obtain ⟨happlied, hrows⟩ := ih h
    refine ⟨highlight_of_apply happlied, ?_⟩
    rcases hrows with hsame | ⟨d, hmem, htable⟩
    · rcases c.apply_highlight completion with hnone | ⟨-, htable | ⟨d, rfl, htable⟩⟩
      · exact absurd (hnone.symm.trans happlied) nofun
      · exact .inl (hsame.trans htable)
      · exact .inr ⟨d, List.mem_cons_self, hsame.trans htable⟩
    · exact .inr ⟨d, List.mem_cons_of_mem _ hmem, htable⟩

/-- Rows in a new order put the highlight out, whatever else comes with them. -/
theorem highlight_of_sorted {completions : List Completion} {d : Diagrams}
    (h : ⟨.sorting, .data d⟩ ∈ completions) (c : Controller) :
    (completions.foldl apply c).view.highlight = none := by
  obtain ⟨early, late, rfl⟩ := List.append_of_mem h
  rw [List.foldl_append, List.foldl_cons]
  refine Option.eq_none_iff_forall_ne_some.mpr fun id hid => ?_
  exact absurd (highlight_of_foldl_apply hid).1 nofun

end Controller

/-! ### On the way -/

namespace Exchange

variable {x : Exchange} {past : List Happening}

/-- A fetch that is on its way: it has been issued, and either it has no answer or its completion still
waits, as those of the requests that were answered last do. -/
def InFlight (x : Exchange) (number : Nat) (fetch : Fetch) : Prop :=
  x.fetch? number = some fetch ∧ number ∉ x.answered.drop x.arrived.length

/-- It is outstanding in the history. -/
theorem Accounted.inFlight_iff (h : Accounted x past) {number : Nat} {fetch : Fetch} :
    x.InFlight number fetch ↔ Outstanding past number fetch := by
  rw [InFlight, Outstanding, h.issued, ← h.applied, mem_appliedNumbers, not_exists]

/-- A completion that waits is that of a fetch on its way. -/
theorem Course.inFlight_of_arrived (h : Course x past) {completion : Completion}
    (hmem : completion ∈ x.arrived) :
    ∃ number fetch, x.InFlight number fetch ∧ fetch.purpose = completion.purpose ∧
      (number, completion) ∈ x.queued := by
  have hlength : x.arrived.length ≤ (x.answered.take x.arrived.length).reverse.length := by
    rw [List.length_reverse, List.length_take]
    exact Nat.le_min.mpr ⟨Nat.le_refl _, h.room⟩
  have hsnd : x.queued.map Prod.snd = x.arrived := List.map_snd_zip hlength
  rw [← hsnd] at hmem
  obtain ⟨⟨number, completion⟩, hqueued, rfl⟩ := List.mem_map.mp hmem
  obtain ⟨fetch, hissued, hpurpose⟩ := h.accounted.waiting _ _ hqueued
  refine ⟨number, fetch, ⟨(h.accounted.issued _ _).mp hissued, fun hdrop => ?_⟩, hpurpose, hqueued⟩
  have htake : number ∈ x.answered.take x.arrived.length :=
    List.mem_reverse.mp (List.of_mem_zip hqueued).1
  exact List.disjoint_take_drop h.accounted.distinct (Nat.le_refl _) htake hdrop

theorem poll_controller (x : Exchange) :
    (x.handle .poll).controller =
      x.arrived.foldl Controller.apply (x.controller.fireDue x.now).1 := rfl

/-- **A poll** never highlights a row, and under a highlight it changes the rows only to those that come
with the flame graph. -/
theorem highlight_of_poll {id : UInt64}
    (h : (x.handle .poll).controller.view.highlight = some id) :
    x.controller.view.highlight = some id ∧
      ((x.handle .poll).controller.view.table = x.controller.view.table ∨
        ∃ d, ⟨.diagrams, .data d⟩ ∈ x.arrived ∧
          (x.handle .poll).controller.view.table = d.table) := by
  rw [poll_controller] at h ⊢
  obtain ⟨hfired, hrows⟩ := Controller.highlight_of_foldl_apply h
  obtain ⟨hhighlight, htable⟩ := x.controller.fireDue_highlight x.now
  refine ⟨?_, hrows.imp_left fun hsame => hsame.trans htable⟩
  rw [hfired] at hhighlight
  split_ifs at hhighlight
  exact hhighlight.symm

end Exchange

open Exchange (Course)

namespace Viewer

variable {v w : Viewer}

/-! ### The highlight through a session -/

/-- The cursor highlights a row of the table. -/
theorem rooted_moveTo (v : Viewer) (row : Nat) : (v.moveTo row).view.Rooted := by
  intro id hid
  rw [highlight_moveTo] at hid
  obtain ⟨found, hfound, hname⟩ := Option.map_eq_some_iff.mp hid
  have hvisible : found ∈ Filter.visible v.view.filter v.view.table := List.mem_of_getElem? hfound
  exact ⟨found, (List.mem_filter.mp hvisible).1, hname⟩

theorem view_tick (v : Viewer) :
    v.tick.1.view = (v.exchange.handle .poll).controller.view := by
  rw [tick_eq]
  rfl

/-- An act leaves the rows as they are, and the highlight too unless it puts it out or on a row. -/
theorem Act.highlight (h : Act v w) :
    w.view.Rooted ∨ w.view.highlight = v.view.highlight ∧ w.view.table = v.view.table := by
  obtain ⟨hmove, -, harrived⟩ := h
  cases hmove with
  | aside | line | sort | filter | turn | wait => exact .inr ⟨rfl, rfl⟩
  | row => exact .inl (v.rooted_moveTo _)
  | setMode mode =>
    have hhighlight : (v.setMode mode).view.highlight = _ := v.controller.setMode_highlight mode
    split_ifs at hhighlight
    · exact .inr ⟨hhighlight, (v.controller.setMode_rows mode).1⟩
    · exact .inl (ViewState.rooted_of_none hhighlight)
  | answer number outcome =>
    have hsame : (v.send (.answer number outcome)).controller = v.controller :=
      Exchange.answer_controller _ _ _
    exact .inr ⟨congrArg (·.view.highlight) hsame, congrArg (·.view.table) hsame⟩
  | tick =>
    -- nothing had arrived that the tick could have taken in
    have hnone : v.exchange.arrived = [] := by
      rw [← harrived, tick_eq]
      rfl
    rw [view_tick]
    cases hhighlight : (v.exchange.handle .poll).controller.view.highlight with
    | none => exact .inl (ViewState.rooted_of_none hhighlight)
    | some id =>
      obtain ⟨hbefore, htable | ⟨d, hmem, -⟩⟩ := Exchange.highlight_of_poll hhighlight
      · exact .inr ⟨hbefore.symm, htable⟩
      · rw [hnone] at hmem
        cases hmem

/-- **A highlight without a row was there before the event**, and the rows were the same unless the event
is a tick that takes in some with the flame graph. -/
theorem highlight_of_handle {e : Event} {id : UInt64}
    (hid : (v.handle e).view.highlight = some id)
    (hlost : ∀ row ∈ (v.handle e).view.table, row.id ≠ id) :
    v.view.highlight = some id ∧
      ((v.handle e).view.table = v.view.table ∨
        e = .tick ∧ ∃ d, ⟨.diagrams, .data d⟩ ∈ v.exchange.arrived ∧
          (v.handle e).view.table = d.table) := by
  by_cases huser : e.ofUser
  · have hkept : (v.handle e).view.Rooted ∨
        (v.handle e).view.highlight = v.view.highlight ∧ (v.handle e).view.table = v.view.table := by
      refine handle_keeps_of_acts (P := fun w => w.view.Rooted ∨
        w.view.highlight = v.view.highlight ∧ w.view.table = v.view.table) ?_ huser ?_
        (.inr ⟨rfl, rfl⟩)
      · intro u w hu hact
        rcases hact.highlight with hrooted | ⟨hhighlight, htable⟩
        · exact .inl hrooted
        · exact hu.imp (fun hrooted => hrooted.congr hhighlight htable)
            fun hsame => ⟨hhighlight.trans hsame.1, htable.trans hsame.2⟩
      · intro wall _
        obtain ⟨sent, heq, hsent⟩ := v.reload_eq_send wall
        rw [heq]
        rcases hsent with rfl | ⟨-, range, rfl⟩ <;> exact .inr ⟨rfl, rfl⟩
    rcases hkept with hrooted | ⟨hhighlight, htable⟩
    · obtain ⟨row, hrow, hname⟩ := hrooted id hid
      exact absurd hname (hlost row hrow)
    · exact ⟨hhighlight.symm.trans hid, .inl htable⟩
  · cases e with
    | tick =>
      have hview : (v.handle .tick).view = (v.exchange.handle .poll).controller.view := v.view_tick
      rw [hview] at hid ⊢
      obtain ⟨hbefore, hrows⟩ := Exchange.highlight_of_poll hid
      exact ⟨hbefore, hrows.imp_right fun hcome => ⟨rfl, hcome⟩⟩
    | answer number outcome =>
      have hsame : (v.handle (.answer number outcome)).controller = v.controller :=
        Exchange.answer_controller _ _ _
      exact ⟨(congrArg (·.view.highlight) hsame).symm.trans hid,
        .inl (congrArg (·.view.table) hsame)⟩
    | press | mouse | draw | advance => exact absurd rfl huser

/-- **A tick loses the row of the highlight**: the row is there and highlighted while a fetch of table and
flame graph is on its way, and the tick takes in its answer, which is without the row. -/
structure Loses (v : Viewer) (id : UInt64) : Prop where
  highlighted : v.view.highlight = some id
  shown : ∃ row ∈ v.view.table, row.id = id
  replaced : ∃ number fetch d, v.exchange.InFlight number fetch ∧ fetch.purpose = .diagrams ∧
    (number, ⟨.diagrams, .data d⟩) ∈ v.exchange.queued ∧
    v.tick.1.view.table = d.table ∧ ∀ row ∈ d.table, row.id ≠ id

/-- **A renewal**: an operation after which the highlight has its row, wherever it has been before. -/
inductive Renews (v : Viewer) : Viewer → Prop where
  /-- The cursor comes to a row. -/
  | row (row : Nat) : Renews v (v.moveTo row)
  /-- The mode is switched. -/
  | mode {mode : Mode} (hmode : mode ≠ v.mode) : Renews v (v.setMode mode)
  /-- Table and flame graph are fetched, as they are due. -/
  | fetch (hdue : (v.controller.fireDue v.exchange.now).2) : Renews v v.tick.1
  /-- Rows come in a new order. -/
  | sorted {d : Diagrams} (harrived : ⟨.sorting, .data d⟩ ∈ v.exchange.arrived) :
    Renews v v.tick.1

theorem Renews.rooted (h : Renews v w) : w.view.Rooted := by
  cases h with
  | row row => exact v.rooted_moveTo row
  | mode hmode =>
    refine ViewState.rooted_of_none ((v.controller.setMode_highlight _).trans ?_)
    exact if_neg hmode
  | fetch hdue =>
    rw [view_tick, Exchange.poll_controller]
    intro id hid
    obtain ⟨hfired, -⟩ := Controller.highlight_of_foldl_apply hid
    have hnone := (v.controller.fireDue_highlight v.exchange.now).1
    rw [if_pos hdue] at hnone
    exact absurd (hnone.symm.trans hfired) nofun
  | sorted harrived =>
    rw [view_tick]
    exact ViewState.rooted_of_none (Controller.highlight_of_sorted harrived _)

theorem run_concat (v : Viewer) (events : List Event) (e : Event) :
    v.run (events ++ [e]) = (v.run events).handle e := List.foldl_concat ..

/-- **A highlight loses its row only to an answer that was on its way when the row was highlighted.** In
every state of a session, whatever the backend answers and in whatever order: if the highlighted row is
not in the table, then at an earlier tick it was, and that tick has taken in the answer to a fetch of
table and flame graph, which does not have it. A move of the cursor, a switch of the mode, the next such
fetch and rows in a new order end this. -/
theorem highlight_of_row (context : Context) (quiet : Nat) (mode : Mode) (source : String)
    (theme : Theme) (lookback : Option Duration) (exportDirectory : String) (events : List Event) :
    let start := opened (.new context quiet mode) source theme lookback exportDirectory
    let v := start.run events
    (∀ id, v.view.highlight = some id → (∀ row ∈ v.view.table, row.id ≠ id) →
      ∃ before after, events = before ++ .tick :: after ∧ (start.run before).Loses id) ∧
      ∀ w, Renews v w → w.view.Rooted := by
  intro start v
  refine ⟨?_, fun w hrenews => hrenews.rooted⟩
  intro id
  induction events using List.reverseRecOn with
  | nil => exact fun hid => absurd hid nofun
  | append_singleton events e ih =>
    have hv : v = (start.run events).handle e := start.run_concat events e
    rw [hv]
    intro hid hlost
    obtain ⟨hbefore, hrows⟩ := highlight_of_handle hid hlost
    by_cases hshown : ∃ row ∈ (start.run events).view.table, row.id = id
    · rcases hrows with hsame | ⟨rfl, d, harrived, htable⟩
      · obtain ⟨row, hrow, hname⟩ := hshown
        exact absurd hname (hlost row (hsame ▸ hrow))
      · obtain ⟨past, h, -⟩ :=
          run_course context quiet mode source theme lookback exportDirectory events
        obtain ⟨number, fetch, hflight, hpurpose, hqueued⟩ := h.inFlight_of_arrived harrived
        refine ⟨events, [], rfl, hbefore, hshown, number, fetch, d, hflight, hpurpose, hqueued,
          htable, ?_⟩
        exact htable ▸ hlost
    · have hearlier := ih hbefore fun row hrow hname => hshown ⟨row, hrow, hname⟩
      obtain ⟨before, after, rfl, hloses⟩ := hearlier
      exact ⟨before, after ++ [e], by simp, hloses⟩

/-- The cursor comes to the only row while a reload is on its way, and the answer has another row. What is
highlighted after that was lost at the last tick. -/
theorem highlight_of_row_replaced :
    let rows (number : Nat) (id : UInt64) : Event := .answer number (.data { table := [{ id }] })
    let key (key : Key) : Event := .press { key } 0 "" none
    let start := opened (.new default 16 .combine) "scripted" .dark none "."
    let events := [.advance 16, .tick, rows 0 1, .tick, key (.char 'r'), .advance 16, .tick, key .home,
      rows 1 2, .tick]
    let v := start.run events
    (v.view.highlight = some 1 ∧ ∀ row ∈ v.view.table, row.id ≠ 1) ∧
      (∃ before after, events = before ++ .tick :: after ∧ (start.run before).Loses 1) ∧
      ∀ w, Renews v w → w.view.Rooted := by
  intro rows key start events v
  have hhighlight : v.view.highlight = some 1 := by decide
  have hlost : ∀ row ∈ v.view.table, row.id ≠ 1 := by decide
  obtain ⟨hwhen, hrenews⟩ := highlight_of_row default 16 .combine "scripted" .dark none "." events
  exact ⟨⟨hhighlight, hlost⟩, hwhen 1 hhighlight hlost, hrenews⟩

/-- In the same session nothing is on its way any more, and the highlighted row is not in the table. -/
theorem highlight_without_row :
    let rows (number : Nat) (id : UInt64) : Event := .answer number (.data { table := [{ id }] })
    let key (key : Key) : Event := .press { key } 0 "" none
    let v := (opened (.new default 16 .combine) "scripted" .dark none ".").run
      [.advance 16, .tick, rows 0 1, .tick, key (.char 'r'), .advance 16, .tick, key .home, rows 1 2,
        .tick]
    v.view.highlight = some 1 ∧ v.view.table.map (·.id) = [2] ∧ v.controller.inFlight = 0 ∧
      ¬ ∃ row ∈ v.view.table, row.id = 1 := by
  decide

end Viewer

end ProfileBrowser
