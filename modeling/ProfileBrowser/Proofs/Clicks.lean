import ProfileBrowser.Proofs.Cursor
import ProfileBrowser.Proofs.Strokes
/-!
# Clicks on the table

The table tells a click's row from what it remembers of the frame that was drawn last: its area and the
first row on the screen. The rows stand one under the other below the border and the heading
(`TablePanel.mem_shown`), each painted on its own line (`TablePanel.rowStrokes_within`), and the row under
the cursor is among them (`TablePanel.exists_shown_of_cursor`). A click hits the row of the line that it is
on (`Viewer.click_hits_shown_row`).
-/

namespace ProfileBrowser

/-! ### Lines of the table -/

namespace Layout

/-- The columns of a table do not reach beyond it. -/
theorem placeColumns_le (limit start : Nat) (widths : List Nat) :
    ∀ column ∈ placeColumns limit start widths, column.1 + column.2 ≤ limit := by
  induction widths generalizing start with
  | nil => simp [placeColumns]
  | cons width rest ih =>
    intro column hcolumn
    rw [placeColumns] at hcolumn
    rcases List.mem_cons.mp hcolumn with rfl | hrest
    · dsimp only
      omega
    · exact ih _ column hrest

theorem columns_le (width : Nat) : ∀ column ∈ columns width, column.1 + column.2 ≤ width :=
  placeColumns_le width 0 _

end Layout

namespace TablePanel

variable {v : Viewer} {area : Rect} {y i : Nat} {row : TableRow}

/-- **The rows on the screen** stand one under the other, from the first one on, as far as there are
lines. -/
theorem mem_shown :
    (y, i, row) ∈ shown v area ↔
      v.visibleRows[i]? = some row ∧ offset v area ≤ i ∧ i < offset v area + rowLines area ∧
        y = area.inner.y + 1 + (i - offset v area) := by
  simp only [shown, List.mem_map, Prod.exists, Prod.mk.injEq, List.mem_zipIdx_iff_getElem?]
  constructor
  · rintro ⟨row', k, hrow, rfl, rfl, rfl⟩
    rw [List.getElem?_take, List.getElem?_drop] at hrow
    split_ifs at hrow with hk
    exact ⟨hrow, Nat.le_add_right _ _, by omega, by omega⟩
  · rintro ⟨hrow, hle, hlt, rfl⟩
    refine ⟨row, i - offset v area, ?_, rfl, by omega, rfl⟩
    rw [List.getElem?_take, List.getElem?_drop, if_pos (by omega), Nat.add_sub_cancel' hle, hrow]

/-- Where there is a line for rows, the first is two below the top, and the last is above the border. -/
theorem line_of_rowLines (h : 0 < rowLines area) :
    area.inner.y + 1 = area.y + 2 ∧ area.y + 2 + rowLines area + 1 = area.bottom := by
  simp only [rowLines, Rect.inner, Rect.bottom] at h ⊢
  omega

/-- The table scrolls so far that the row under the cursor is on one of its lines. -/
theorem scroll_in_view (offset cursor count : Nat) {height : Nat} (h : 0 < height) :
    scroll offset cursor count height ≤ cursor ∧ cursor < scroll offset cursor count height + height := by
  simp only [scroll]
  split_ifs <;> omega

/-- **The row under the cursor is on the screen** if the table has a line for rows. -/
theorem exists_shown_of_cursor (hcursor : cursor v = some i) (hinner : ¬area.inner.isEmpty)
    (hlines : 0 < rowLines area) : ∃ y row, (y, i, row) ∈ shown v area := by
  -- The frame is drawn with the offset that it leaves behind.
  have hoffset : offset v area = scroll v.tableOffset i v.visibleRows.length (rowLines area) := by
    rw [offset, hcursor]
    exact if_neg hinner
  have hlt : i < v.visibleRows.length := by
    simp only [cursor] at hcursor
    split_ifs at hcursor with hcount
    obtain rfl := Option.some.inj hcursor
    omega
  obtain ⟨hle, hbelow⟩ := scroll_in_view v.tableOffset i v.visibleRows.length hlines
  rw [← hoffset] at hle hbelow
  exact ⟨_, _, mem_shown.mpr ⟨List.getElem?_eq_getElem hlt, hle, hbelow, rfl⟩⟩

/-- The cells of a line are on it. -/
theorem cells_within (v : Viewer) (inner : Rect) (y : Nat) (texts : List String) :
    ∀ s ∈ cells v inner y texts, s.Within { inner with y, height := 1 } := by
  intro s hs
  simp only [cells, List.mem_flatMap, Prod.exists] at hs
  obtain ⟨x, width, text, hzip, hs⟩ := hs
  have hcolumn := Layout.columns_le _ _ (List.of_mem_zip hzip).1
  refine (Lettering.label_within _ _ s hs).mono ?_
  simp only [Rect.Inside, Rect.right, Rect.bottom] at hcolumn ⊢
  omega

/-- **A row is painted on its line.** -/
theorem rowStrokes_within (h : ¬area.inner.isEmpty) (v : Viewer) (y i : Nat) (row : TableRow) :
    ∀ s ∈ rowStrokes v area y i row, s.Within { area with y, height := 1 } := by
  obtain ⟨hwidth, -⟩ := Rect.not_isEmpty_iff.mp h
  have hline : Rect.Inside { area.inner with y, height := 1 } { area with y, height := 1 } := by
    simp only [Rect.Inside, Rect.inner, Rect.right, Rect.bottom] at hwidth ⊢
    omega
  have hmark : Rect.Inside { area.inner with y, height := 1, width := markWidth v }
      { area with y, height := 1 } := by
    have hcolumns : markWidth v ≤ 2 := by
      rw [markWidth]
      split_ifs <;> omega
    simp only [Rect.Inside, Rect.inner, Rect.right, Rect.bottom] at hwidth ⊢
    omega
  intro s hs
  rw [rowStrokes] at hs
  rcases List.mem_append.mp hs with hs | hs
  · rcases List.mem_cons.mp hs with rfl | hs
    · exact hline
    · split_ifs at hs
      · exact (Lettering.label_within _ _ s hs).mono hmark
      · cases hs
  · exact (cells_within v area.inner y _ s hs).mono hline

theorem mem_strokes_of_shown (h : ¬area.inner.isEmpty) (hshown : (y, i, row) ∈ shown v area) :
    ∀ s ∈ rowStrokes v area y i row, s ∈ strokes v area := by
  intro s hs
  rw [strokes]
  dsimp only
  rw [if_neg h]
  refine List.mem_append_right _ (List.mem_append_left _ (List.mem_append_right _ ?_))
  exact List.mem_flatMap.mpr ⟨(y, i, row), hshown, hs⟩

end TablePanel

/-! ### Clicks -/

namespace Viewer

open TablePanel (shown rowStrokes rowLines offset)

variable {v : Viewer} {screen area : Rect} {x y i : Nat}

/-- **What a click hits**: the row of its line, if it is in the area of the table, below the border and the
heading and above the border. -/
theorem rowAt_eq_some :
    v.rowAt x y = some i ↔
      v.tableArea.contains x y ∧ v.tableArea.y + linesAboveRows ≤ y ∧ y + 1 < v.tableArea.bottom ∧
        i = v.tableOffset + (y - (v.tableArea.y + linesAboveRows)) ∧ i < v.visibleRows.length := by
  simp only [rowAt, Bool.or_eq_true, Bool.not_eq_true', decide_eq_true_eq]
  split_ifs with hout hlt
  · refine iff_of_false (by simp) ?_
    rintro ⟨hcontains, habove, hbelow, -⟩
    rcases hout with (hout | hout) | hout
    · rw [hcontains] at hout
      cases hout
    · omega
    · omega
  · rw [Option.some.injEq]
    simp only [not_or, Bool.not_eq_false] at hout
    constructor
    · rintro rfl
      exact ⟨hout.1.1, by omega, by omega, rfl, hlt⟩
    · rintro ⟨-, -, -, rfl, -⟩
      rfl
  · refine iff_of_false (by simp) ?_
    rintro ⟨-, -, -, rfl, hlt'⟩
    exact hlt hlt'

/-- A click that hits no row leaves the viewer as it is, and one that hits a row selects and highlights
it. -/
theorem mouse_of_rowAt (hy : contentTop ≤ y) :
    v.mouse (.leftDown x y) =
      match v.rowAt x y with
      | some row => v.moveTo row
      | none => v := by
  have htabs : y ≠ contentTop - 1 := by
    simp only [contentTop] at hy ⊢
    omega
  rw [mouse, if_neg htabs]
  cases hrow : v.rowAt x y with
  | none => rfl
  | some row => exact if_pos (lt_of_rowAt hrow)

/-! ### After a frame -/

theorem visibleRows_drawn (v : Viewer) (screen : Rect) : (v.drawn screen).visibleRows = v.visibleRows := by
  rw [drawn]
  split <;> rfl

theorem drawn_of_place (h : v.tablePlace? screen = some area) :
    v.drawn screen = TablePanel.drawn v area := by
  rw [drawn, h]

/-- What is painted in the place of the table is painted on the screen. -/
theorem mem_strokes_of_place (h : v.tablePlace? screen = some area) :
    ∀ s ∈ TablePanel.strokes v area, s ∈ v.strokes screen := by
  intro s hs
  have hcontent : s ∈ v.contentStrokes (Layout.content screen) := by
    rw [tablePlace?] at h
    rw [contentStrokes]
    cases hmode : v.mode with
    | combine =>
      simp only [hmode, Option.some.injEq] at h
      exact List.mem_append_left _ (h ▸ hs)
    | table =>
      simp only [hmode, Option.some.injEq] at h
      exact h ▸ hs
    | flame | topo => simp [hmode] at h
  simp only [strokes, List.mem_append, hcontent, true_or, or_true]

/-- A mode has a place for the table if it shows it. -/
theorem tablePlace?_eq_none : v.tablePlace? screen = none ↔ ¬v.mode.showsTable := by
  rw [tablePlace?]
  cases v.mode <;> simp [Mode.showsTable]

/-- Without a table no row is hit. -/
theorem rowAt_of_no_place (h : v.tablePlace? screen = none) (x y : Nat) :
    (v.drawn screen).rowAt x y = none := by
  rw [drawn, h]
  simp [rowAt, Rect.contains, Rect.right]

/-- **In the area of the table the row of the line is hit.** -/
theorem rowAt_of_place (h : v.tablePlace? screen = some area) :
    (v.drawn screen).rowAt x y = some i ↔ area.contains x y ∧ ∃ row, (y, i, row) ∈ shown v area := by
  rw [drawn_of_place h, rowAt_eq_some]
  show area.contains x y ∧ area.y + linesAboveRows ≤ y ∧ y + 1 < area.bottom ∧
    i = offset v area + (y - (area.y + linesAboveRows)) ∧ i < v.visibleRows.length ↔ _
  refine and_congr_right fun _ => ?_
  simp only [linesAboveRows, TablePanel.mem_shown]
  constructor
  · rintro ⟨habove, hbelow, hi, hlt⟩
    have hlines : 0 < rowLines area := by
      simp only [rowLines, Rect.inner, Rect.bottom] at hbelow ⊢
      omega
    obtain ⟨hfirst, hlast⟩ := TablePanel.line_of_rowLines hlines
    exact ⟨_, List.getElem?_eq_getElem hlt, by omega, by omega, by omega⟩
  · rintro ⟨row, hrow, hle, hlt, hy⟩
    have hlines : 0 < rowLines area := by omega
    obtain ⟨hfirst, hlast⟩ := TablePanel.line_of_rowLines hlines
    have hvisible := (List.getElem?_eq_some_iff.mp hrow).1
    exact ⟨by omega, by omega, by omega, hvisible⟩

/-- **A click hits the row that the table shows there.** After a frame of any size has been drawn, a row is hit
exactly where the table has been drawn and on the line on which it shows that row: its strokes are on that
line, and the row under the cursor is among those shown if there is a line for it. So no row is hit on the
border's upper and lower line, on the heading, below the last row, outside the table and in a mode without
it. A click below the tabs that hits a row selects and highlights it, and one that hits none changes
nothing. -/
theorem click_hits_shown_row (v : Viewer) (width height : Nat) :
    let screen : Rect := { width, height }
    let w := (v.draw width height).1
    (∀ x y i, w.rowAt x y = some i ↔
      ∃ area, v.tablePlace? screen = some area ∧ area.contains x y ∧
        ∃ row, w.visibleRows[i]? = some row ∧ (y, i, row) ∈ shown v area) ∧
    (∀ area, v.tablePlace? screen = some area →
      (∀ x y, y = area.y ∨ y = area.y + 1 ∨ y + 1 = area.bottom → w.rowAt x y = none) ∧
      (∀ x y, (∀ y' i row, (y', i, row) ∈ shown v area → y' < y) → w.rowAt x y = none) ∧
      (¬area.inner.isEmpty →
        (∀ y i row, (y, i, row) ∈ shown v area → ∀ s ∈ rowStrokes v area y i row,
          s ∈ v.strokes screen ∧ s.Within { area with y, height := 1 }) ∧
        (0 < rowLines area → ∀ i, TablePanel.cursor v = some i →
          ∃ y row, (y, i, row) ∈ shown v area))) ∧
    (¬v.mode.showsTable → ∀ x y, w.rowAt x y = none) ∧
    ∀ x y, contentTop ≤ y →
      (w.rowAt x y = none → w.mouse (.leftDown x y) = w) ∧
      ∀ i, w.rowAt x y = some i →
        (w.mouse (.leftDown x y)).selectedRow = i ∧
          (w.mouse (.leftDown x y)).view.highlight = w.visibleRows[i]?.map (·.id) := by
  intro screen w
  have hplace : ∀ {area}, v.tablePlace? screen = some area → ∀ {x y i},
      w.rowAt x y = some i ↔ area.contains x y ∧ ∃ row, (y, i, row) ∈ shown v area :=
    fun h => rowAt_of_place h
  have hrows : w.visibleRows = v.visibleRows := v.visibleRows_drawn screen
  refine ⟨fun x y i => ?_, fun area harea => ⟨fun x y hy => ?_, fun x y hy => ?_, fun hinner => ?_⟩,
    fun hmode x y => ?_, fun x y hy => ⟨fun hnone => ?_, fun i hi => ?_⟩⟩
  · constructor
    · intro hrow
      cases harea : v.tablePlace? screen with
      | none => exact absurd (hrow.symm.trans (rowAt_of_no_place harea x y)) nofun
      | some area =>
        obtain ⟨hcontains, row, hshown⟩ := (hplace harea).mp hrow
        exact ⟨area, rfl, hcontains, row, hrows ▸ (TablePanel.mem_shown.mp hshown).1, hshown⟩
    · rintro ⟨area, harea, hcontains, row, -, hshown⟩
      exact (hplace harea).mpr ⟨hcontains, row, hshown⟩
  · -- Neither the border nor the heading is on a line of a row.
    refine Option.eq_none_iff_forall_ne_some.mpr fun i hi => ?_
    obtain ⟨-, row, hshown⟩ := (hplace harea).mp hi
    obtain ⟨-, hle, hlt, hline⟩ := TablePanel.mem_shown.mp hshown
    have hlines : 0 < rowLines area := by omega
    obtain ⟨hfirst, hlast⟩ := TablePanel.line_of_rowLines hlines
    omega
  · refine Option.eq_none_iff_forall_ne_some.mpr fun i hi => ?_
    obtain ⟨-, row, hshown⟩ := (hplace harea).mp hi
    exact Nat.lt_irrefl y (hy y i row hshown)
  · refine ⟨fun y i row hshown s hs => ⟨?_, ?_⟩, fun hlines i hcursor => ?_⟩
    · exact mem_strokes_of_place harea s (TablePanel.mem_strokes_of_shown hinner hshown s hs)
    · exact TablePanel.rowStrokes_within hinner v y i row s hs
    · exact TablePanel.exists_shown_of_cursor hcursor hinner hlines
  · exact rowAt_of_no_place (tablePlace?_eq_none.mpr hmode) x y
  · rw [mouse_of_rowAt hy, hnone]
  · rw [mouse_of_rowAt hy, hi]
    exact ⟨rfl, rfl⟩

/-- Five rows on two lines, with the cursor on the last row. -/
example :
    let rows : Outcome := .data { table := (List.range 5).map fun i => { id := i.toUInt64 } }
    let v := (opened (.new default 300 .table) "scripted" .dark none ".").run
      [.advance 300, .tick, .answer 0 rows, .tick, .press { key := .end_ } 0 "" none, .draw 20 8]
    (List.range 8).map (v.rowAt 5) = [none, none, none, none, some 3, some 4, none, none] := by
  decide

end Viewer

end ProfileBrowser
