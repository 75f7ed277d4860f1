import ProfileBrowser.Proofs.Sessions
/-!
# The cursor of the table

The rows that the cursor goes over become fewer from several sides: answers bring other rows, and the
filter lets fewer through. Only a poll takes answers in, and only the filter's own operations replace its
text. The operations on the filter put the cursor on the first row, and a tick moves it up to the last
one if its poll reports a change. A poll that reports none leaves the rows as they are, so it is enough
to look then.

The cursor is on a row, or on the first place of an empty table (`Viewer.OnRow`), and every move keeps
it there. What navigates the table ends with `Viewer.moveTo`, which highlights the row that the cursor
has come to (`Viewer.cursor_on_row`).
-/

namespace ProfileBrowser

/-! ### What changes the rows -/

/-- The request for the call graph leaves the rows and the filter alone. -/
theorem Controller.requestTopology_rows (c : Controller) :
    c.requestTopology.view.table = c.view.table ∧ c.requestTopology.view.filter = c.view.filter := by
  by_cases h : c.TopologyMissing
  · rw [requestTopology_of_missing h]
    exact ⟨rfl, rfl⟩
  · rw [requestTopology_of_present h]
    exact ⟨rfl, rfl⟩

/-- So does a switch of the mode. -/
theorem Controller.setMode_rows (c : Controller) (mode : Mode) :
    (c.setMode mode).view.table = c.view.table ∧ (c.setMode mode).view.filter = c.view.filter := by
  rw [setMode]
  split_ifs
  · exact ⟨rfl, rfl⟩
  · exact (c.turned mode).requestTopology_rows
  · exact ⟨rfl, rfl⟩

/-- A poll that reports no change makes none to what is shown. -/
theorem Controller.poll_view_of_unchanged {c : Controller} {now : Nat} {arrived : List Completion}
    (h : (c.poll now arrived).2 = false) : (c.poll now arrived).1.view = c.view := by
  obtain ⟨hfired, harrived⟩ : (c.fireDue now).2 = false ∧ arrived = [] := by
    simpa [poll] using h
  have hdue : (c.debouncer.takeDue now).1 = [] := by
    simpa [fireDue] using hfired
  rw [poll, harrived, fireDue]
  dsimp only
  rw [hdue]
  rfl

/-- Rows and filter are replaced by polls and by the filter's own event alone. -/
theorem Exchange.handle_rows (x : Exchange) {e : Event} (hpoll : e ≠ .poll)
    (hfilter : ∀ filter, e ≠ .setFilter filter) :
    (x.handle e).controller.view.table = x.controller.view.table ∧
      (x.handle e).controller.view.filter = x.controller.view.filter := by
  cases e with
  | poll => exact absurd rfl hpoll
  | setFilter filter => exact absurd rfl (hfilter filter)
  | setMode mode => exact x.controller.setMode_rows mode
  | answer number outcome =>
    rw [handle, answer_controller]
    exact ⟨rfl, rfl⟩
  | setParams | setRange | refresh | sortBy | highlight | toggleDirection | advance =>
    exact ⟨rfl, rfl⟩

namespace Viewer

variable {v w : Viewer}

theorem visibleRows_send (v : Viewer) {e : Exchange.Event} (hpoll : e ≠ .poll)
    (hfilter : ∀ filter, e ≠ .setFilter filter) : (v.send e).visibleRows = v.visibleRows := by
  obtain ⟨htable, hkeyword⟩ := v.exchange.handle_rows hpoll hfilter
  exact congrArg₂ Filter.visible hkeyword htable

/-! ### On a row -/

/-- The cursor is on a visible row, or at the first place if there is none. -/
def OnRow (v : Viewer) : Prop := v.selectedRow ≤ v.visibleRows.length - 1

theorem onRow_iff : v.OnRow ↔ v.selectedRow = 0 ∨ v.selectedRow < v.visibleRows.length := by
  rw [OnRow]
  omega

/-- What is no poll and does not filter keeps the cursor on its row. -/
theorem OnRow.send (hv : v.OnRow) {e : Exchange.Event} (hpoll : e ≠ .poll)
    (hfilter : ∀ filter, e ≠ .setFilter filter) : (v.send e).OnRow := by
  rw [OnRow, v.visibleRows_send hpoll hfilter]
  exact hv

/-- The cursor goes to a place that the rows have. -/
theorem onRow_moveTo {row : Nat} (hrow : row ≤ v.visibleRows.length - 1) : (v.moveTo row).OnRow :=
  OnRow.send (v := { v with selectedRow := row }) hrow nofun nofun

theorem OnRow.tick (hv : v.OnRow) : v.tick.1.OnRow := by
  have hrows : v.tick.1.visibleRows = (v.send .poll).visibleRows := by rw [tick_eq]; rfl
  rw [OnRow, hrows, tick_eq]
  dsimp only
  split_ifs with hpast
  · exact Nat.le_refl _
  · -- Either nothing has changed, or the cursor is still before the end of the rows.
    cases hchanged : v.exchange.poll.2 with
    | false =>
      have hview : (v.send .poll).view = v.view := Controller.poll_view_of_unchanged hchanged
      rw [visibleRows, hview]
      exact hv
    | true =>
      simp only [hchanged, Bool.true_and, decide_eq_true_eq, Nat.not_le] at hpast
      exact Nat.le_sub_one_of_lt hpast

/-- **Every move keeps the cursor on a row.** -/
theorem OnRow.move (hv : v.OnRow) (h : Move v w) : w.OnRow := by
  cases h with
  | aside | line => exact hv
  | setMode mode => exact hv.send nofun nofun
  | row hrow => exact onRow_moveTo (hrow.elim id fun hback => Nat.le_trans hback hv)
  | sort | filter => exact Nat.zero_le _
  | turn | wait | answer => exact hv.send nofun nofun
  | tick => exact hv.tick

theorem OnRow.reload (hv : v.OnRow) (wall : Int) : (v.reload wall).OnRow := by
  obtain ⟨sent, heq, hsent⟩ := v.reload_eq_send wall
  rw [heq]
  rcases hsent with rfl | ⟨-, range, rfl⟩
  · exact hv.send nofun nofun
  · exact hv.send nofun nofun

theorem OnRow.handle (hv : v.OnRow) (e : Event) : (v.handle e).OnRow :=
  handle_keeps OnRow.move (fun wall _ => hv.reload wall) hv

theorem OnRow.run (hv : v.OnRow) (events : List Event) : (v.run events).OnRow := by
  induction events generalizing v with
  | nil => exact hv
  | cons e events ih => exact ih (hv.handle e)

/-! ### Navigation -/

/-- The keys that move the cursor. -/
def navigationKeys : List Key :=
  [.up, .down, .pageUp, .pageDown, .home, .end_, .char 'k', .char 'j']

/-- **A navigation**: an event that moves the cursor of the table, in a mode that is not the call graph's.
-/
inductive Navigates (v : Viewer) : Event → Prop where
  /-- A key for it, with no help open and no filter being typed. -/
  | key {pressed : KeyPress} (hkey : pressed.key ∈ navigationKeys) (hhelp : ¬ v.helpShown)
      (hfilter : ¬ v.filterActive) (wall : Int) (stamp : String) (failure : Option FileFault) :
    Navigates v (.press pressed wall stamp failure)
  /-- The wheel, a step up. -/
  | wheelUp : Navigates v (.mouse .scrollUp)
  /-- The wheel, a step down. -/
  | wheelDown : Navigates v (.mouse .scrollDown)
  /-- A click, not on the tabs, where the table shows a row. -/
  | click {x y row : Nat} (htabs : y ≠ contentTop - 1) (hrow : v.rowAt x y = some row) :
    Navigates v (.mouse (.leftDown x y))

theorem selectNext_eq_moveTo (hmode : v.mode ≠ .topo) (n : Nat) :
    v.selectNext n = v.moveTo (min (v.selectedRow + n) (v.visibleRows.length - 1)) := if_neg hmode

theorem selectPrev_eq_moveTo (hmode : v.mode ≠ .topo) (n : Nat) :
    v.selectPrev n = v.moveTo (v.selectedRow - n) := if_neg hmode

theorem selectFirst_eq_moveTo (hmode : v.mode ≠ .topo) : v.selectFirst = v.moveTo 0 := if_neg hmode

theorem selectLast_eq_moveTo (hmode : v.mode ≠ .topo) :
    v.selectLast = v.moveTo (v.visibleRows.length - 1) := if_neg hmode

/-- A place of the screen where the table shows a row shows a visible one. -/
theorem lt_of_rowAt {x y row : Nat} (h : v.rowAt x y = some row) : row < v.visibleRows.length := by
  rw [rowAt] at h
  dsimp only at h
  split_ifs at h with _ hlt
  exact Option.some.inj h ▸ hlt

/-- A key that moves the cursor, as a command. -/
theorem commandKey_eq_moveTo {press : KeyPress} (hkey : press.key ∈ navigationKeys)
    (hmode : v.mode ≠ .topo) (wall : Int) :
    ∃ row, v.commandKey press wall = (v.moveTo row, none) := by
  obtain ⟨key, control, shift, alt⟩ := press
  simp only [navigationKeys, List.mem_cons, List.not_mem_nil, or_false] at hkey
  rcases hkey with rfl | rfl | rfl | rfl | rfl | rfl | rfl | rfl
  · exact ⟨_, congrArg (·, none) (selectPrev_eq_moveTo hmode 1)⟩
  · exact ⟨_, congrArg (·, none) (selectNext_eq_moveTo hmode 1)⟩
  · exact ⟨_, congrArg (·, none) (selectPrev_eq_moveTo hmode pageRows)⟩
  · exact ⟨_, congrArg (·, none) (selectNext_eq_moveTo hmode pageRows)⟩
  · exact ⟨_, congrArg (·, none) (selectFirst_eq_moveTo hmode)⟩
  · exact ⟨_, congrArg (·, none) (selectLast_eq_moveTo hmode)⟩
  · exact ⟨_, congrArg (·, none) (selectPrev_eq_moveTo hmode 1)⟩
  · exact ⟨_, congrArg (·, none) (selectNext_eq_moveTo hmode 1)⟩

/-- **What navigates puts the cursor on a row** and does nothing else. -/
theorem Navigates.handle_eq {e : Event} (h : v.Navigates e) (hmode : v.mode ≠ .topo) :
    ∃ row, v.handle e = v.moveTo row := by
  cases h with
  | key hkey hhelp hfilter wall stamp failure =>
    obtain ⟨row, hrow⟩ := v.commandKey_eq_moveTo hkey hmode wall
    refine ⟨row, ?_⟩
    rw [handle, press, if_neg hhelp, if_neg hfilter, hrow]
    rfl
  | wheelUp => exact ⟨_, selectPrev_eq_moveTo hmode 1⟩
  | wheelDown => exact ⟨_, selectNext_eq_moveTo hmode 1⟩
  | @click x y row htabs hrow =>
    refine ⟨row, ?_⟩
    rw [handle, mouse, if_neg htabs, hrow]
    exact if_pos (lt_of_rowAt hrow)

/-- A cursor that has just been put on a row has it highlighted. -/
theorem highlight_moveTo (v : Viewer) (row : Nat) :
    (v.moveTo row).view.highlight = (v.moveTo row).selectedTableRow.map (·.id) := rfl

/-- A cursor on a row has none under it only if no row is visible. -/
theorem OnRow.selectedTableRow_eq_none (hv : v.OnRow) :
    v.selectedTableRow = none ↔ v.visibleRows = [] := by
  rw [OnRow] at hv
  rw [selectedTableRow, List.getElem?_eq_none_iff, ← List.length_eq_zero_iff]
  omega

/-! ### The cursor in a session -/

/-- **The cursor is on a row in every state of a session**, whatever the backend answers and in whatever
order: it is on a visible row or at the first place. After a navigation outside the mode of the call
graph the highlighted row is the one under it, and none is highlighted only if no row is visible. -/
theorem cursor_on_row (exchange : Exchange) (source : String) (theme : Theme)
    (lookback : Option Duration) (exportDirectory : String) (events : List Event) :
    let v := (opened exchange source theme lookback exportDirectory).run events
    (v.selectedRow = 0 ∨ v.selectedRow < v.visibleRows.length) ∧
      ∀ e, v.Navigates e → v.mode ≠ .topo →
        let w := v.handle e
        w.view.highlight = w.selectedTableRow.map (·.id) ∧
          (w.view.highlight = none ↔ w.visibleRows = []) := by
  intro v
  have hopened : (opened exchange source theme lookback exportDirectory).OnRow := Nat.zero_le _
  have hv : v.OnRow := hopened.run events
  refine ⟨onRow_iff.mp hv, fun e he hmode => ?_⟩
  intro w
  have hhighlight : w.view.highlight = w.selectedTableRow.map (·.id) := by
    obtain ⟨row, hrow⟩ := he.handle_eq hmode
    have hw : w = v.moveTo row := hrow
    rw [hw]
    exact v.highlight_moveTo row
  refine ⟨hhighlight, ?_⟩
  rw [hhighlight, Option.map_eq_none_iff]
  exact (hv.handle e).selectedTableRow_eq_none

/-- Three rows, the cursor on the last, and then an answer with two: the cursor moves up to the second.
A step up goes to the first. -/
theorem cursor_on_row_after_fewer :
    let rows (n : Nat) : Outcome := .data { table := (List.range n).map fun i => { id := i.toUInt64 } }
    let key (key : Key) : Event := .press { key } 0 "" none
    let v := (opened (.new default 300 .combine) "scripted" .dark none ".").run
      [.advance 300, .tick, .answer 0 (rows 3), .tick, key .end_, key (.char 'r'), .advance 300, .tick,
        .answer 1 (rows 2), .tick]
    (v.selectedRow = 1 ∧ v.visibleRows.length = 2 ∧ v.Navigates (key .up) ∧ v.mode ≠ .topo ∧
        (v.handle (key .up)).view.highlight = some 0) ∧
      (v.selectedRow = 0 ∨ v.selectedRow < v.visibleRows.length) ∧
      ∀ e, v.Navigates e → v.mode ≠ .topo →
        let w := v.handle e
        w.view.highlight = w.selectedTableRow.map (·.id) ∧
          (w.view.highlight = none ↔ w.visibleRows = []) := by
  intro rows key v
  have hkey : v.Navigates (key .up) := .key (by decide) (by decide) (by decide) _ _ _
  exact ⟨⟨by decide, by decide, hkey, by decide, by decide⟩, cursor_on_row _ _ _ _ _ _⟩

end Viewer

end ProfileBrowser
