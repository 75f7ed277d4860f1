import ProfileBrowser.Proofs.SavedResponse
import ProfileBrowser.Proofs.Sessions
import ProfileBrowser.Proofs.Settling
/-!
# The announced order

The heading of the table announces the viewer's order. A change of the order asks for the rows in it, and
nothing else asks for rows in an order, so the last request for an order is always for the announced one
(`Viewer.Announced`). But rows also come with the flame graph, and that request is for no order: after a
reload the heading still announces the order that was chosen before it, over rows in the backend's own
(`rows_out_of_announced_order`).

At rest, with answers in the order of their requests, the rows are those of the last request that asks for
any (`Course.rows_of_last`). `rows_of_last_request` puts both together.
-/

namespace ProfileBrowser

/-! ### Requests for rows -/

/-- Whether a request asks for rows. -/
def Fetch.wantsRows (fetch : Fetch) : Bool := fetch.request.wants .table

/-- Whether a request is for rows in an order. -/
def Fetch.isSort (fetch : Fetch) : Bool := fetch.purpose = .sorting

/-- With a purpose goes what is asked for: all but the call graph comes with rows. -/
theorem Fetch.wantsRows_iff {fetch : Fetch} (h : fetch.request.kinds = fetch.purpose.kinds) :
    fetch.wantsRows ↔ fetch.purpose = .diagrams ∨ fetch.purpose = .sorting := by
  rw [wantsRows, Request.wants, h]
  cases fetch.purpose with
  | diagrams | sorting => decide
  | topology generation => exact iff_of_false Bool.false_ne_true (by simp)

namespace Controller

theorem requestTopology_find?_isSort (c : Controller) :
    c.requestTopology.ledger.find? Fetch.isSort = c.ledger.find? Fetch.isSort := by
  rcases c.requestTopology_ledger_cases with h | h
  · rw [h]
  · rw [h, List.find?_cons_of_neg Bool.false_ne_true]

theorem fetchDiagrams_find?_isSort (c : Controller) :
    c.fetchDiagrams.ledger.find? Fetch.isSort = c.ledger.find? Fetch.isSort := by
  by_cases hmode : c.view.mode = .topo
  · rw [fetchDiagrams_topo hmode, requestTopology_find?_isSort]
    rfl
  · rw [fetchDiagrams_other hmode]
    rfl

theorem fireDue_find?_isSort (c : Controller) (now : Nat) :
    (c.fireDue now).1.ledger.find? Fetch.isSort = c.ledger.find? Fetch.isSort := by
  have hfold : ∀ (due : List Trigger) (c : Controller),
      (due.foldl (fun c _ => c.fetchDiagrams) c).ledger.find? Fetch.isSort =
        c.ledger.find? Fetch.isSort := by
    intro due
    induction due with
    | nil => exact fun _ => rfl
    | cons trigger due ih => exact fun c => (ih _).trans c.fetchDiagrams_find?_isSort
  exact hfold _ _

end Controller

namespace Exchange

variable {x : Exchange} {past : List Happening}

/-- **Only the user's change of the order asks for rows in an order.** -/
theorem handle_find?_isSort (x : Exchange) {e : Event} (he : ∀ directive, e ≠ .sortBy directive) :
    (x.handle e).controller.ledger.find? Fetch.isSort =
      x.controller.ledger.find? Fetch.isSort := by
  cases e with
  | sortBy directive => exact absurd rfl (he directive)
  | poll =>
    rw [poll_ledger]
    exact x.controller.fireDue_find?_isSort x.now
  | setMode mode =>
    rw [handle, Controller.setMode]
    split_ifs
    · rfl
    · exact (x.controller.turned mode).requestTopology_find?_isSort
    · rfl
  | answer number outcome => rw [handle, answer_controller]
  | setParams | setRange | refresh | highlight | setFilter | toggleDirection | advance => rfl

/-- The last request of a kind has a number, and those after it are of another kind. -/
theorem exists_number_of_find? {p : Fetch → Bool} {last : Fetch}
    (h : x.controller.ledger.find? p = some last) :
    ∃ number, x.fetch? number = some last ∧
      ∀ n fetch, number < n → x.fetch? n = some fetch → ¬ p fetch := by
  obtain ⟨-, late, early, hledger, hlate⟩ := List.find?_eq_some_iff_append.mp h
  have hreverse : x.controller.ledger.reverse = early.reverse ++ (last :: late.reverse) := by
    rw [hledger, List.reverse_append, List.reverse_cons, List.append_assoc, List.singleton_append]
  refine ⟨early.length, ?_, fun n fetch hn hfetch => ?_⟩
  · rw [fetch?, hreverse, List.getElem?_append_right (by simp)]
    simp
  · rw [fetch?, hreverse, List.getElem?_append_right (by simp; omega), List.length_reverse] at hfetch
    obtain ⟨k, hk⟩ : ∃ k, n - early.length = k + 1 := ⟨n - early.length - 1, by omega⟩
    rw [hk, List.getElem?_cons_succ] at hfetch
    simpa using hlate fetch (List.mem_reverse.mp (List.mem_of_getElem? hfetch))

/-- A completion for a request that asks for no rows brings none. -/
theorem rows?_of_not_wantsRows {fetch : Fetch} (hkinds : fetch.request.kinds = fetch.purpose.kinds)
    (hnone : ¬ fetch.wantsRows) {completion : Completion}
    (hpurpose : fetch.purpose = completion.purpose) (number : Nat) :
    (Happening.applied number completion).rows? = none := by
  obtain ⟨purpose, outcome⟩ := completion
  rw [Fetch.wantsRows_iff hkinds, hpurpose, not_or] at hnone
  cases purpose with
  | diagrams => exact absurd rfl hnone.1
  | sorting => exact absurd rfl hnone.2
  | topology => rfl

/-- **At rest, in order and with data for every request**, the rows are those of the last request that
asks for any. -/
theorem Course.rows_of_last (h : Course x past) (horder : InOrder past)
    (hrest : x.controller.inFlight = 0)
    (hdata : ∀ number completion, .applied number completion ∈ past →
      ∃ d, completion.outcome = .data d) {last : Fetch}
    (hlast : x.controller.ledger.find? Fetch.wantsRows = some last) :
    ∃ number d, Answered past number last (.data d) ∧ x.controller.view.table = d.table := by
  have haccounted := h.accounted
  obtain ⟨number, hfetch, hlater⟩ := exists_number_of_find? hlast
  have hissued := (haccounted.issued _ _).mpr hfetch
  obtain ⟨⟨purpose, outcome⟩, happlied⟩ := haccounted.all_applied hrest (haccounted.lt_of_issued hissued)
  obtain ⟨f, hf, hpurpose⟩ := haccounted.purpose _ _ happlied
  obtain rfl := haccounted.eq_of_issued hf hissued
  obtain ⟨d, hd⟩ := hdata _ _ happlied
  cases hd
  cases hpurpose
  refine ⟨number, d, ⟨hissued, happlied⟩, ?_⟩
  obtain ⟨later, earlier, hpast⟩ := List.append_of_mem happlied
  have hquiet : ∀ a ∈ later, a.rows? = none := by
    intro a ha
    cases a with
    | triggered | replaced | issued => rfl
    | applied m completion =>
      have hlt : number < m := InOrder.lt (hpast ▸ horder) ha
      obtain ⟨g, hg, hfor⟩ := haccounted.purpose m completion (hpast ▸ List.mem_append_left _ ha)
      exact rows?_of_not_wantsRows (h.kinds_of_issued hg)
        (hlater m g hlt ((haccounted.issued _ _).mp hg)) hfor m
  have hbrings : (Happening.applied number ⟨f.purpose, .data d⟩).rows? = some d.table := by
    have hwants : f.wantsRows := List.find?_some hlast
    rcases (Fetch.wantsRows_iff (h.kinds_of_issued hissued)).mp hwants with hfor | hfor <;>
      rw [hfor] <;> rfl
  rw [h.displayed.table, hpast, List.findSome?_append, List.findSome?_eq_none_iff.mpr hquiet,
    Option.none_or, List.findSome?_cons, hbrings]
  rfl

/-- Once table and flame graph are not awaited any more, rows have been asked for. -/
theorem Course.exists_wantsRows (h : Course x past) (hnone : awaited past = none) :
    ∃ last, x.controller.ledger.find? Fetch.wantsRows = some last := by
  obtain ⟨number, hcurrent⟩ := h.current hnone
  have hfetch := (h.accounted.issued _ _).mp (mem_of_mem_recent hcurrent.charts)
  rw [← Option.isSome_iff_exists, List.find?_isSome]
  exact ⟨_, List.mem_reverse.mp (List.mem_of_getElem? hfetch), rfl⟩

/-- Then the last request for rows is the last of those in an order, or the one for table and flame graph
in the context. -/
theorem Course.purpose_of_last (h : Course x past) (hnone : awaited past = none) {last : Fetch}
    (hlast : x.controller.ledger.find? Fetch.wantsRows = some last) :
    last.purpose = .sorting ∧ x.controller.ledger.find? Fetch.isSort = some last ∨
      last = x.controller.context.chartsFetch := by
  have hkinds : ∀ fetch ∈ x.controller.ledger, fetch.request.kinds = fetch.purpose.kinds := by
    intro fetch hmem
    obtain ⟨number, hnumber⟩ := List.mem_iff_getElem?.mp (List.mem_reverse.mpr hmem)
    exact h.kinds_of_issued ((h.accounted.issued _ _).mpr hnumber)
  have hwants := (Fetch.wantsRows_iff (hkinds last (List.mem_of_find?_eq_some hlast))).mp
    (List.find?_some hlast)
  rcases hwants with hcharts | hsort
  · right
    obtain ⟨number, hfetch, hlater⟩ := exists_number_of_find? hlast
    obtain ⟨current, hcurrent⟩ := h.current hnone
    have hissued := (h.accounted.issued _ _).mp (mem_of_mem_recent hcurrent.charts)
    rcases Nat.lt_trichotomy number current with hlt | rfl | hgt
    · exact absurd rfl (hlater _ _ hlt hissued)
    · exact Option.some.inj (hfetch.symm.trans hissued)
    · -- What is requested after it in the context is not for table and flame graph.
      have hside := (hcurrent.later _ _ hgt ((h.accounted.issued _ _).mpr hfetch)).2
      cases hside <;> cases hcharts
  · left
    refine ⟨hsort, ?_⟩
    obtain ⟨-, late, early, hledger, hlate⟩ := List.find?_eq_some_iff_append.mp hlast
    refine List.find?_eq_some_iff_append.mpr
      ⟨decide_eq_true hsort, late, early, hledger, fun fetch hmem => ?_⟩
    have hother := hlate fetch hmem
    rw [Bool.not_eq_true', Bool.eq_false_iff] at hother ⊢
    refine fun his => hother ((Fetch.wantsRows_iff (hkinds fetch ?_)).mpr (.inr (of_decide_eq_true his)))
    exact hledger ▸ List.mem_append_left _ hmem

/-- What is answered in order is applied in order. -/
theorem Accounted.inOrder (h : Accounted x past) (horder : x.answered.Pairwise (· > ·)) :
    InOrder past := by
  rw [InOrder, h.applied]
  exact horder.sublist (List.drop_sublist _ _)

end Exchange

open Exchange (Course Answered)

namespace Viewer

variable {v w : Viewer}

/-! ### The announced order through a session -/

/-- The last request for rows in an order is for the one that the heading announces. -/
def Announced (v : Viewer) : Prop :=
  ∀ fetch, v.controller.ledger.find? Fetch.isSort = some fetch →
    fetch.request.sort = some v.sort.directive

theorem Announced.of_same (hv : v.Announced)
    (hledger : w.controller.ledger.find? Fetch.isSort = v.controller.ledger.find? Fetch.isSort)
    (hsort : w.sort = v.sort) : w.Announced := by
  rw [Announced, hledger, hsort]
  exact hv

/-- **Every move keeps the order announced**: what changes it asks for the rows in it. -/
theorem Announced.move (hv : v.Announced) (h : Move v w) : w.Announced := by
  cases h with
  | aside | line => exact hv.of_same rfl rfl
  | sort sort =>
    intro fetch hfetch
    cases hfetch
    rfl
  | setMode | row | filter | turn | wait | answer =>
    exact hv.of_same (v.exchange.handle_find?_isSort nofun) rfl
  | tick =>
    rw [tick_eq]
    exact hv.of_same (v.exchange.handle_find?_isSort (e := .poll) nofun) rfl

theorem Announced.reload (hv : v.Announced) (wall : Int) : (v.reload wall).Announced := by
  obtain ⟨sent, heq, hsent⟩ := v.reload_eq_send wall
  rw [heq]
  rcases hsent with rfl | ⟨-, range, rfl⟩
  · exact hv.of_same (v.exchange.handle_find?_isSort (e := .refresh) nofun) rfl
  · exact hv.of_same (v.exchange.handle_find?_isSort (e := .setRange range) nofun) rfl

theorem Announced.run (hv : v.Announced) (events : List Event) : (v.run events).Announced := by
  induction events generalizing v with
  | nil => exact hv
  | cons e events ih => exact ih (handle_keeps Announced.move (fun wall _ => hv.reload wall) hv)

/-! ### Changes of the order -/

/-- Whether an event changes the order: one of its two keys, where the table is on the screen. -/
def Event.sorts (v : Viewer) : Event → Bool
  | .press pressed _ _ _ =>
    (pressed.key = .char 's' || pressed.key = .char 'S') && !v.helpShown && !v.filterActive &&
      v.mode.showsTable
  | _ => false

/-- **A change of the order asks for the rows in the new one.** -/
theorem handle_of_sorts {e : Event} (h : e.sorts v) :
    ∃ sort, sort ≠ v.sort ∧ v.handle e = { v with sort }.applySort := by
  cases e with
  | press pressed wall stamp failure =>
    simp only [Event.sorts, Bool.and_eq_true, Bool.or_eq_true, decide_eq_true_eq,
      Bool.not_eq_true'] at h
    obtain ⟨⟨⟨hkey, hhelp⟩, hfilter⟩, hmode⟩ := h
    rw [handle, press, if_neg (Bool.eq_false_iff.mp hhelp), if_neg (Bool.eq_false_iff.mp hfilter)]
    rcases hkey with hkey | hkey
    · refine ⟨{ v.sort with column := v.sort.column.next }, fun heq => ?_, ?_⟩
      · have hcolumn : v.sort.column.next = v.sort.column := congrArg TableSort.column heq
        cases hsame : v.sort.column <;> rw [hsame] at hcolumn <;> cases hcolumn
      · simp [commandKey, hkey, command, hmode, written, cycleSort]
    · refine ⟨{ v.sort with ascending := !v.sort.ascending }, fun heq => ?_, ?_⟩
      · simpa using congrArg TableSort.ascending heq
      · simp [commandKey, hkey, command, hmode, written, toggleSortDirection]
  | mouse | tick | draw | advance | answer => cases h

/-- **The rows are those of the last request for any, and its order is the announced one unless it came
with the flame graph.** In every state of a session with no refresh pending and nothing in flight, when
every request has been answered with data and in the order of the requests: the rows are the data of the
answer to the last request that asks for rows. Either that request is for rows in an order, and then in
the one that the heading announces; or it is the one for table and flame graph in the context, and then
for no order. Every change of the order asks for the rows in the new one at once. -/
theorem rows_of_last_request (context : Context) (quiet : Nat) (mode : Mode) (source : String)
    (theme : Theme) (lookback : Option Duration) (exportDirectory : String) (events : List Event) :
    let start := opened (.new context quiet mode) source theme lookback exportDirectory
    let v := start.run events
    (¬ v.controller.refreshPending → v.controller.inFlight = 0 →
      v.exchange.answered.Pairwise (· > ·) →
      (∀ number outcome, .answer number outcome ∈ events → ∃ d, outcome = .data d) →
      ∃ past last number d, Course v.exchange past ∧
        v.controller.ledger.find? Fetch.wantsRows = some last ∧
        Answered past number last (.data d) ∧ .answer number (.data d) ∈ events ∧
        v.view.table = d.table ∧
        (last.purpose = .sorting ∧ last.request.sort = some v.sort.directive ∨
          last = v.controller.context.chartsFetch ∧ last.request.sort = none)) ∧
      ∀ e, e.sorts v →
        let w := v.handle e
        w.sort ≠ v.sort ∧
          w.controller.ledger =
            w.controller.context.sortFetch w.sort.directive :: v.controller.ledger := by
  intro start v
  refine ⟨fun hpending hrest horder hdata => ?_, fun e he => ?_⟩
  · obtain ⟨past, h, hanswer⟩ :
        ∃ past, Course v.exchange past ∧
          ∀ number completion, .applied number completion ∈ past →
            .answer number completion.outcome ∈ events :=
      run_course context quiet mode source theme lookback exportDirectory events
    have hnone : Exchange.awaited past = none := by
      have hsettled : v.controller.refreshPending = (Exchange.awaited past).isSome := h.refreshPending
      rw [hsettled] at hpending
      simpa using hpending
    obtain ⟨last, hlast⟩ := h.exists_wantsRows hnone
    obtain ⟨number, d, hanswered, htable⟩ := h.rows_of_last (h.accounted.inOrder horder) hrest
      (fun n completion happlied => hdata n _ (hanswer n completion happlied)) hlast
    refine ⟨past, last, number, d, h, hlast, hanswered, hanswer _ _ hanswered.2, htable, ?_⟩
    rcases h.purpose_of_last hnone hlast with hsort | hcharts
    · refine .inl ⟨hsort.1, ?_⟩
      have hannounced : v.Announced := Announced.run (v := start) nofun events
      exact hannounced last hsort.2
    · exact .inr ⟨hcharts, hcharts ▸ rfl⟩
  · obtain ⟨sort, hsort, heq⟩ := handle_of_sorts he
    intro w
    have hw : w = { v with sort }.applySort := heq
    rw [hw]
    exact ⟨hsort, rfl⟩

/-- The order is changed once, and nothing is asked for after that: the rows are in the announced one. -/
theorem rows_of_last_request_sorted :
    let rows (number : Nat) (id : UInt64) : Event := .answer number (.data { table := [{ id }] })
    let events := [.advance 16, .tick, rows 0 1, .tick, .press { key := .char 's' } 0 "" none, rows 1 2,
      .tick]
    let v := (opened (.new default 16 .combine) "scripted" .dark none ".").run events
    (¬ v.controller.refreshPending ∧ v.controller.inFlight = 0 ∧
      v.exchange.answered.Pairwise (· > ·) ∧
      ∀ number outcome, .answer number outcome ∈ events → ∃ d, outcome = .data d) ∧
      ∃ past last number d, Course v.exchange past ∧
        v.controller.ledger.find? Fetch.wantsRows = some last ∧
        Answered past number last (.data d) ∧ .answer number (.data d) ∈ events ∧
        v.view.table = d.table ∧
        (last.purpose = .sorting ∧ last.request.sort = some v.sort.directive ∨
          last = v.controller.context.chartsFetch ∧ last.request.sort = none) := by
  intro rows events
  have hdata : ∀ number outcome, .answer number outcome ∈ events → ∃ d, outcome = .data d := by
    intro number outcome hmem
    obtain ⟨-, rfl⟩ | ⟨-, rfl⟩ : number = 0 ∧ outcome = .data { table := [{ id := 1 }] } ∨
        number = 1 ∧ outcome = .data { table := [{ id := 2 }] } := by
      simpa [events, rows] using hmem
    all_goals exact ⟨_, rfl⟩
  obtain ⟨hrows, -⟩ := rows_of_last_request default 16 .combine "scripted" .dark none "." events
  refine ⟨⟨?_, ?_, ?_, hdata⟩, hrows ?_ ?_ ?_ hdata⟩ <;> decide

/-- A reload after the change brings rows of a request for no order, under a heading that announces the
order of before. -/
theorem rows_out_of_announced_order :
    let rows (number : Nat) (id : UInt64) : Event := .answer number (.data { table := [{ id }] })
    let key (key : Key) : Event := .press { key } 0 "" none
    let start := opened (.new default 16 .combine) "scripted" .dark none "."
    let before := [.advance 16, .tick, rows 0 1, .tick]
    let events := before ++ [key (.char 's'), rows 1 2, .tick, key (.char 'r'), .advance 16, .tick,
      rows 2 3, .tick]
    let v := start.run events
    ((key (.char 's')).sorts (start.run before) ∧ ¬ v.controller.refreshPending ∧
      v.controller.inFlight = 0 ∧ v.exchange.answered = [2, 1, 0] ∧ v.sort.directive = "-name") ∧
      ¬ ∃ number fetch d, v.exchange.fetch? number = some fetch ∧
        .answer number (.data d) ∈ events ∧ v.view.table = d.table ∧
        fetch.request.sort = some v.sort.directive := by
  intro rows key start before events v
  refine ⟨by decide, ?_⟩
  rintro ⟨number, fetch, d, hfetch, hmem, htable, hsort⟩
  have hthird : v.view.table.map (·.id) = [3] := by decide
  rw [htable] at hthird
  obtain ⟨-, rfl⟩ | ⟨-, rfl⟩ | ⟨rfl, -⟩ : number = 0 ∧ d = { table := [{ id := 1 }] } ∨
      number = 1 ∧ d = { table := [{ id := 2 }] } ∨ number = 2 ∧ d = { table := [{ id := 3 }] } := by
    simpa [events, before, rows, key] using hmem
  · exact absurd hthird (by decide)
  · exact absurd hthird (by decide)
  · have hlast : (v.exchange.fetch? 2).map (·.request.sort) = some none := by decide
    rw [hfetch] at hlast
    exact absurd (hsort.symm.trans (Option.some.inj hlast)) nofun

end Viewer

end ProfileBrowser
