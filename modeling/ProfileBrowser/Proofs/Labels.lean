import Mathlib.Data.List.DropRight
import ProfileBrowser.Proofs.Drawing
/-!
# Labels in their cells

A label that is too long for a width is cut to exactly that width, and the two directions mirror each other
(`Direction.rtl_eq_reverse`). The text of a cell has as many characters as the cell has columns at every width,
so the bar of a frame puts one symbol into each of its columns, whatever was painted there before, and none
elsewhere (`labels_fill_cells`).
-/

namespace ProfileBrowser

/-! ### Cut labels -/

namespace Direction

variable {label : List Char} {width : Nat}

theorem truncateChars_of_le (d : Direction) (h : label.length ≤ width) : d.truncateChars label width = label :=
  if_pos h

theorem truncateChars_zero (d : Direction) (label : List Char) : d.truncateChars label 0 = [] := by
  cases label <;> rfl

theorem truncateChars_ltr (hwidth : 0 < width) (h : width < label.length) :
    ltr.truncateChars label width = label.take (width - 1) ++ [ellipsis] := by
  rw [truncateChars, if_neg h.not_ge, if_neg hwidth.ne']

theorem truncateChars_rtl (hwidth : 0 < width) (h : width < label.length) :
    rtl.truncateChars label width = ellipsis :: label.rtake (width - 1) := by
  rw [truncateChars, if_neg h.not_ge, if_neg hwidth.ne', List.rtake]

/-- **A label that is cut fills its width.** -/
theorem length_truncateChars_of_lt (d : Direction) (h : width < label.length) :
    (d.truncateChars label width).length = width := by
  rcases Nat.eq_zero_or_pos width with rfl | hwidth
  · rw [truncateChars_zero]
    rfl
  · cases d with
    | ltr =>
      rw [truncateChars_ltr hwidth h, List.length_append, List.length_take, List.length_singleton]
      omega
    | rtl =>
      rw [truncateChars_rtl hwidth h, List.length_cons, List.rtake, List.length_drop]
      omega

/-- **The two directions mirror each other.** -/
theorem rtl_eq_reverse (label : List Char) (width : Nat) :
    rtl.truncateChars label width = (ltr.truncateChars label.reverse width).reverse := by
  rcases Nat.lt_or_ge width label.length with h | h
  · rcases Nat.eq_zero_or_pos width with rfl | hwidth
    · rw [truncateChars_zero, truncateChars_zero, List.reverse_nil]
    · have h' : width < label.reverse.length := by rwa [List.length_reverse]
      rw [truncateChars_rtl hwidth h, truncateChars_ltr hwidth h', List.reverse_append,
        ← List.rtake_eq_reverse_take_reverse]
      rfl
  · have h' : label.reverse.length ≤ width := by rwa [List.length_reverse]
    rw [truncateChars_of_le rtl h, truncateChars_of_le ltr h', List.reverse_reverse]

end Direction

/-! ### Cells that are painted -/

namespace Canvas

variable {c d : Canvas} {x y : Nat}

/-- Two canvases have the same size and as many cells. -/
def Alike (c d : Canvas) : Prop :=
  c.width = d.width ∧ c.height = d.height ∧ c.cells.size = d.cells.size

theorem Alike.trans {c d e : Canvas} (h : Alike c d) (h' : Alike d e) : Alike c e :=
  ⟨h.1.trans h'.1, h.2.1.trans h'.2.1, h.2.2.trans h'.2.2⟩

theorem alike_foldl {α : Type} {f : Canvas → α → Canvas} (h : ∀ c a, Alike (f c a) c) (as : List α)
    (c : Canvas) : Alike (as.foldl f c) c := by
  induction as generalizing c with
  | nil => exact ⟨rfl, rfl, rfl⟩
  | cons a as ih => exact (ih (f c a)).trans (h c a)

theorem alike_modify (c : Canvas) (x y : Nat) (f : Cell → Cell) : Alike (c.modify x y f) c := by
  rw [modify]
  split_ifs
  · exact ⟨rfl, rfl, Array.size_modify⟩
  · exact ⟨rfl, rfl, rfl⟩

/-- **Painting keeps the size.** -/
theorem alike_paint (c : Canvas) (strokes : List Stroke) : Alike (c.paint strokes) c := by
  have harea (c : Canvas) (area : Rect) (f : Cell → Cell) : Alike (c.modifyArea area f) c :=
    alike_foldl (fun c y => alike_foldl (fun c x => alike_modify c x y f) _ c) _ c
  refine alike_foldl (fun c s => ?_) strokes c
  cases s with
  | put | join | erase => exact alike_modify c _ _ _
  | restyle | clear => exact harea c _ _

/-- A canvas has a cell for each of its places. -/
def Whole (c : Canvas) : Prop := c.cells.size = c.width * c.height

theorem Whole.of_alike (hd : d.Whole) (h : Alike c d) : c.Whole := by
  rw [Whole, h.1, h.2.1, h.2.2]
  exact hd

theorem whole_blank (width height : Nat) : (blank width height).Whole := Array.size_replicate

theorem cell_modify (hc : c.Whole) (hx : x < c.width) (hy : y < c.height) (f : Cell → Cell) :
    (c.modify x y f).cell x y = f (c.cell x y) := by
  have hindex : y * c.width + x < c.cells.size := by
    rw [hc, Nat.mul_comm c.width]
    calc y * c.width + x < (y + 1) * c.width := by rw [Nat.succ_mul]; omega
      _ ≤ c.height * c.width := Nat.mul_le_mul_right _ hy
  rw [modify, if_pos ⟨hx, hy⟩]
  simp [cell, Array.getD_eq_getD_getElem?, hindex, Array.getElem_modify]

/-- **Each of the symbols side by side** is found in its cell, over what was there before. -/
theorem cell_paint_puts (hc : c.Whole) (before : List Char) (symbol : Char) (after : List Char) (style : Style)
    (hx : x + before.length < c.width) (hy : y < c.height) :
    (c.paint (puts x y style (before ++ symbol :: after) 0)).cell (x + before.length) y =
      { (c.cell (x + before.length) y).restyle style with symbol := symbol.toString } := by
  have hsplit : puts x y style (before ++ symbol :: after) 0 = puts x y style before 0 ++
      .put (x + before.length) y symbol.toString style :: puts x y style after (before.length + 1) := by
    rw [puts, List.zipIdx_append, List.zipIdx_cons, List.map_append, List.map_cons, Nat.zero_add]
    rfl
  have hleft : SameAt (x + before.length) y (c.paint (puts x y style before 0)) c := by
    refine sameAt_paint (puts_within x y style before 0) ?_ hx
    simp [Rect.contains_iff, Rect.right]
  have halike := alike_paint c (puts x y style before 0)
  rw [hsplit, paint, List.foldl_append, List.foldl_cons]
  change (((c.paint (puts x y style before 0)).modify (x + before.length) y _).paint _).cell _ _ = _
  generalize c.paint (puts x y style before 0) = painted at *
  have hmodified := alike_modify painted (x + before.length) y
    fun cell => { cell.restyle style with symbol := symbol.toString }
  have hx' : x + before.length < painted.width := hleft.1 ▸ hx
  rw [(sameAt_paint (puts_within x y style after (before.length + 1)) ?_ (hmodified.1 ▸ hx')).2,
    cell_modify (hc.of_alike halike) hx' (halike.2.1 ▸ hy), hleft.2]
  rw [Rect.contains_iff]
  exact fun hin => absurd hin.1.1 (by dsimp only; omega)

end Canvas

/-! ### Bars of frames -/

namespace FlamePanel

open Flame (Frame)

variable {inner : Rect} {f : Frame Binary64} {first length : Nat}

/-- What the bar of a frame with so many columns from a first one on makes of a canvas. -/
structure Fills (v : Viewer) (inner : Rect) (f : Frame Binary64) (first length : Nat) (c : Canvas) :
    Prop where
  /-- Each of the columns has its symbol of the cell's text, in the style of the frame. -/
  each : ∀ i < length, ∃ symbol, (v.view.direction.cellText f.node.name length)[i]? = some symbol ∧
    (c.paint (bar v inner f)).cell (inner.x + first + i) (inner.y + row f) =
      { (c.cell (inner.x + first + i) (inner.y + row f)).restyle (styleOf v f) with
        symbol := symbol.toString }
  /-- All other cells are as before. -/
  elsewhere : ∀ x y, x < c.width →
    ¬(y = inner.y + row f ∧ inner.x + first ≤ x ∧ x < inner.x + first + length) →
    (c.paint (bar v inner f)).cell x y = c.cell x y

/-- **A bar fills the columns of its frame**, on every canvas around the panel. -/
theorem fills_of_extent {c : Canvas} (hc : c.Whole) (v : Viewer) (hinner : inner.Inside c.area)
    (hrow : row f < graphLines inner) (h : extent f.start f.width inner.width = some (first, length)) :
    Fills v inner f first length c := by
  obtain ⟨-, -, -, hfits⟩ := extent_fits h
  obtain ⟨-, hright, -, hbottom⟩ := hinner
  simp only [Rect.right, Rect.bottom, Canvas.area] at hright hbottom
  have hlines : graphLines inner ≤ inner.height := Nat.sub_le _ _
  have htext := v.view.direction.length_cellText f.node.name length
  have hbar := bar_eq_puts v hrow h
  generalize hsymbols : v.view.direction.cellText f.node.name length = symbols at htext hbar
  constructor
  · intro i hi
    have hindex : i < symbols.length := htext ▸ hi
    have hbefore : (symbols.take i).length = i := List.length_take_of_le hindex.le
    refine ⟨symbols[i], by rw [hsymbols, List.getElem?_eq_getElem hindex], ?_⟩
    have hcell := Canvas.cell_paint_puts (x := inner.x + first) (y := inner.y + row f) hc (symbols.take i)
      symbols[i] (symbols.drop (i + 1)) (styleOf v f) (by omega) (by omega)
    rwa [List.getElem_cons_drop, List.take_append_drop, hbefore, ← hbar] at hcell
  · intro x y hx hout
    have hwithin := Canvas.puts_within (inner.x + first) (inner.y + row f) (styleOf v f) symbols 0
    rw [← hbar] at hwithin
    refine (Canvas.sameAt_paint hwithin ?_ hx).2
    rw [Rect.contains_iff]
    simp only [Rect.right, Rect.bottom]
    omega

end FlamePanel

/-! ### Labels and cells -/

open FlamePanel in
/-- **Labels fill their cells.** A label that fits a width is left as it is; of a longer one its start with an
ellipsis behind it, or an ellipsis and its end, are exactly as wide, nothing of it where there is no width, and
the two directions mirror each other. The text of a cell is exactly as wide as the cell. So the bar of a frame,
whatever has been painted before on a screen around the panel, puts a symbol into each column of the frame. -/
theorem labels_fill_cells (d : Direction) (label : String) (width : Nat) :
    (label.length ≤ width → d.truncate label width = label) ∧
    (width < label.length → (d.truncate label width).length = width) ∧
    (0 < width → width < label.length →
      (Direction.ltr.truncate label width).toList = label.toList.take (width - 1) ++ ['…'] ∧
      (Direction.rtl.truncate label width).toList = '…' :: label.toList.rtake (width - 1)) ∧
    (Direction.rtl.truncate label width).toList =
      (Direction.ltr.truncate (String.ofList label.toList.reverse) width).toList.reverse ∧
    (d.cellText label width).length = width ∧
    ∀ (v : Viewer) (inner : Rect) (f : Flame.Frame Binary64) (first length screenWidth screenHeight : Nat)
      (before : List Stroke), inner.Inside (Canvas.blank screenWidth screenHeight).area →
      row f < graphLines inner → extent f.start f.width inner.width = some (first, length) →
      Fills v inner f first length ((Canvas.blank screenWidth screenHeight).paint before) := by
  simp only [Direction.truncate, String.toList_ofList, ← String.length_toList]
  refine ⟨fun h => ?_, d.length_truncateChars_of_lt, fun hwidth h => ?_, Direction.rtl_eq_reverse _ _,
    d.length_cellText label width, ?_⟩
  · rw [d.truncateChars_of_le h, String.ofList_toList]
  · exact ⟨Direction.truncateChars_ltr hwidth h, Direction.truncateChars_rtl hwidth h⟩
  · intro v inner f first length screenWidth screenHeight before hinner hrow hextent
    have halike := Canvas.alike_paint (Canvas.blank screenWidth screenHeight) before
    refine fills_of_extent ((Canvas.whole_blank _ _).of_alike halike) v ?_ hrow hextent
    rwa [Canvas.area, halike.1, halike.2.1]

/-- A label of four columns, a longer one cut to them from its end, and that of a frame in the right half of a
panel, in the line below the root's, over a symbol that was left there. -/
theorem labels_fill_cells_over :
    let f : Flame.Frame Binary64 :=
      ⟨.mk 7 "handler" 1 [], 1, Binary64.ofRatio false 1 2, Binary64.ofRatio false 1 2⟩
    let inner : Rect := { x := 1, y := 1, width := 8, height := 3 }
    ("main".length ≤ 4 ∧ Direction.rtl.truncate "main" 4 = "main") ∧
    (4 < "handler".length ∧ (Direction.rtl.truncate "handler" 4).length = 4 ∧
      (Direction.rtl.truncate "handler" 4).toList = '…' :: "handler".toList.rtake 3) ∧
    inner.Inside (Canvas.blank 10 5).area ∧ FlamePanel.row f < FlamePanel.graphLines inner ∧
    FlamePanel.extent f.start f.width inner.width = some (4, 4) ∧
    FlamePanel.Fills default inner f 4 4 ((Canvas.blank 10 5).paint [.put 6 2 "x" .plain]) := by
  intro f inner
  have hshort : "main".length ≤ 4 := by decide
  have hlong : 4 < "handler".length := by decide
  have hinner : inner.Inside (Canvas.blank 10 5).area := ⟨by decide, by decide, by decide, by decide⟩
  have hrow : FlamePanel.row f < FlamePanel.graphLines inner := by decide
  have hextent : FlamePanel.extent f.start f.width inner.width = some (4, 4) := by decide
  obtain ⟨hkept, -⟩ := labels_fill_cells .rtl "main" 4
  obtain ⟨-, hlength, hends, -, -, hfills⟩ := labels_fill_cells .rtl "handler" 4
  exact ⟨⟨hshort, hkept hshort⟩, ⟨hlong, hlength hlong, (hends (by decide) hlong).2⟩, hinner, hrow, hextent,
    hfills default inner f 4 4 10 5 [.put 6 2 "x" .plain] hinner hrow hextent⟩

end ProfileBrowser
