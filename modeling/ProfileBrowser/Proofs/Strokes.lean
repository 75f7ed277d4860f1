import Mathlib.Algebra.BigOperators.Group.List.Basic
import ProfileBrowser.Screen.Panel
/-!
# Strokes within an area

A stroke lies within an area if all cells that it changes do (`Stroke.Within`). What is painted into an
area lies within it: labels and paragraphs, because what does not fit is cut off (`Lettering.label_within`,
`Lettering.text_within`), and so panels with their border and their title (`Panel.strokes_within`). This
holds of areas of any size, also where a size is zero.
-/

namespace ProfileBrowser

/-! ### Areas in areas -/

namespace Rect

variable {r s t : Rect}

theorem contains_iff {x y : Nat} :
    r.contains x y ↔ (r.x ≤ x ∧ x < r.right) ∧ r.y ≤ y ∧ y < r.bottom := by
  simp [contains, and_assoc]

theorem not_isEmpty_iff : ¬r.isEmpty ↔ 0 < r.width ∧ 0 < r.height := by
  simp [isEmpty, Nat.pos_iff_ne_zero]

theorem mem_columns {x : Nat} : x ∈ r.columns ↔ r.x ≤ x ∧ x < r.right := by
  simp only [columns, List.mem_map, List.mem_range, right]
  constructor
  · rintro ⟨i, hi, rfl⟩
    omega
  · exact fun ⟨hle, hlt⟩ => ⟨x - r.x, by omega, by omega⟩

theorem mem_lines {y : Nat} : y ∈ r.lines ↔ r.y ≤ y ∧ y < r.bottom := by
  simp only [lines, List.mem_map, List.mem_range, bottom]
  constructor
  · rintro ⟨i, hi, rfl⟩
    omega
  · exact fun ⟨hle, hlt⟩ => ⟨y - r.y, by omega, by omega⟩

theorem Inside.refl (r : Rect) : r.Inside r :=
  ⟨Nat.le_refl _, Nat.le_refl _, Nat.le_refl _, Nat.le_refl _⟩

theorem Inside.trans (h : r.Inside s) (h' : s.Inside t) : r.Inside t :=
  ⟨Nat.le_trans h'.1 h.1, Nat.le_trans h.2.1 h'.2.1, Nat.le_trans h'.2.2.1 h.2.2.1,
    Nat.le_trans h.2.2.2 h'.2.2.2⟩

theorem Inside.contains (h : r.Inside s) {x y : Nat} (hxy : r.contains x y) : s.contains x y := by
  obtain ⟨⟨hleft, hright⟩, htop, hbottom⟩ := contains_iff.mp hxy
  exact contains_iff.mpr ⟨⟨Nat.le_trans h.1 hleft, Nat.lt_of_lt_of_le hright h.2.1⟩,
    Nat.le_trans h.2.2.1 htop, Nat.lt_of_lt_of_le hbottom h.2.2.2⟩

theorem inner_inside (r : Rect) : r.inner.Inside r := by
  simp only [Inside, inner, right, bottom]
  omega

theorem line_inside {i : Nat} (h : i < r.height) : (r.line i).Inside r := by
  simp only [Inside, line, right, bottom]
  omega

theorem centred_inside {width height : Nat} (hwidth : width ≤ r.width) (hheight : height ≤ r.height) :
    (r.centred width height).Inside r := by
  simp only [Inside, centred, right, bottom]
  omega

end Rect

/-! ### Strokes -/

/-- What a stroke changes lies in an area. -/
def Stroke.Within (area : Rect) : Stroke → Prop
  | .put x y _ _ => area.contains x y
  | .join x y _ _ => area.contains x y
  | .erase x y => area.contains x y
  | .restyle part _ => part.Inside area
  | .clear part => part.Inside area

theorem Stroke.Within.mono {r s : Rect} {stroke : Stroke} (h : stroke.Within r) (hr : r.Inside s) :
    stroke.Within s := by
  cases stroke with
  | put | join | erase => exact hr.contains h
  | restyle | clear => exact Rect.Inside.trans h hr

/-! ### What painting leaves alone -/

namespace Canvas

variable {c : Canvas} {area : Rect} {x y : Nat}

/-- Two canvases have the same cell at a place, and they have the same width. -/
def SameAt (x y : Nat) (c d : Canvas) : Prop := c.width = d.width ∧ c.cell x y = d.cell x y

theorem SameAt.trans {c d e : Canvas} (h : SameAt x y c d) (h' : SameAt x y d e) : SameAt x y c e :=
  ⟨h.1.trans h'.1, h.2.trans h'.2⟩

theorem sameAt_foldl {α : Type} {f : Canvas → α → Canvas} {as : List α}
    (h : ∀ a ∈ as, ∀ c : Canvas, x < c.width → SameAt x y (f c a) c) (c : Canvas) (hx : x < c.width) :
    SameAt x y (as.foldl f c) c := by
  induction as generalizing c with
  | nil => exact ⟨rfl, rfl⟩
  | cons a as ih =>
    have hfirst := h a List.mem_cons_self c hx
    exact (ih (fun b hb => h b (List.mem_cons_of_mem _ hb)) _ (hfirst.1 ▸ hx)).trans hfirst

theorem sameAt_modify {x' y' : Nat} (f : Cell → Cell) (hx : x < c.width) (hne : ¬(x' = x ∧ y' = y)) :
    SameAt x y (c.modify x' y' f) c := by
  rw [modify]
  split_ifs with hin
  · have hindex : y' * c.width + x' ≠ y * c.width + x := by
      intro heq
      have hy : y' = y := by
        have hdiv := congrArg (· / c.width) heq
        simpa only [Nat.mul_comm _ c.width, Nat.mul_add_div (Nat.zero_lt_of_lt hx),
          Nat.div_eq_of_lt hx, Nat.div_eq_of_lt hin.1, Nat.add_zero] using hdiv
      exact hne ⟨Nat.add_left_cancel (hy ▸ heq), hy⟩
    refine ⟨rfl, ?_⟩
    simp only [cell, Array.getD_eq_getD_getElem?, Array.getElem?_modify, if_neg hindex]
  · exact ⟨rfl, rfl⟩

theorem sameAt_modifyArea (f : Cell → Cell) (hout : ¬area.contains x y) (hx : x < c.width) :
    SameAt x y (c.modifyArea area f) c := by
  refine sameAt_foldl (fun y' hy c hx => sameAt_foldl (fun x' hx' c hx => ?_) c hx) c hx
  refine sameAt_modify f hx ?_
  rintro ⟨rfl, rfl⟩
  exact hout (Rect.contains_iff.mpr ⟨Rect.mem_columns.mp hx', Rect.mem_lines.mp hy⟩)

/-- **Strokes within an area** change no cell outside of it. -/
theorem sameAt_paint {strokes : List Stroke} (h : ∀ s ∈ strokes, s.Within area)
    (hout : ¬area.contains x y) (hx : x < c.width) : SameAt x y (c.paint strokes) c := by
  refine sameAt_foldl (fun s hs c hx => ?_) c hx
  have hs := h s hs
  cases s with
  | put | join | erase => exact sameAt_modify _ hx fun ⟨hx', hy'⟩ => hout (hx' ▸ hy' ▸ hs)
  | restyle | clear => exact sameAt_modifyArea _ (fun hin => hout (Rect.Inside.contains hs hin)) hx

/-- The strokes that put symbols side by side from a place on. -/
def puts (x y : Nat) (style : Style) (symbols : List Char) (k : Nat) : List Stroke :=
  (symbols.zipIdx k).map fun (c, i) => .put (x + i) y c.toString style

theorem puts_within (x y : Nat) (style : Style) (symbols : List Char) (k : Nat) :
    ∀ s ∈ puts x y style symbols k,
      s.Within { x := x + k, y, width := symbols.length, height := 1 } := by
  intro s hs
  obtain ⟨⟨c, i⟩, hc, rfl⟩ := List.mem_map.mp hs
  have hlow := List.le_snd_of_mem_zipIdx hc
  have hhigh := List.snd_lt_add_of_mem_zipIdx hc
  refine Rect.contains_iff.mpr ⟨⟨?_, ?_⟩, Nat.le_refl _, Nat.lt_succ_self _⟩
  · dsimp only
    omega
  · simp only [Rect.right]
    omega

end Canvas

namespace Lettering

variable {area : Rect}

/-! ### Labels -/

/-- A label stays left of the column that it must not reach, and marks without a width join a cell of it. -/
theorem clusterStrokes_within {left y : Nat} (hleft : area.x ≤ left) (hroom : left < area.right)
    (hy : area.y ≤ y ∧ y < area.bottom) (style : Style) (gs : List (List Char)) {x : Nat} {first : Bool}
    (hx : left ≤ x) (hfirst : first = true → x = left) :
    ∀ s ∈ clusterStrokes style left area.right y x first gs, s.Within area := by
  induction gs generalizing x first with
  | nil => exact List.forall_mem_nil _
  | cons g gs ih =>
    rw [clusterStrokes]
    by_cases hfull : area.right < x + Text.columns g
    · rw [if_pos hfull]
      exact List.forall_mem_nil _
    · rw [if_neg hfull, List.cons_append]
      refine List.forall_mem_cons.mpr ⟨?_, List.forall_mem_append.mpr ⟨fun s hs => ?_, ?_⟩⟩
      -- A cluster with a width stands where it fits; one without may be at the right edge already, but
      -- then it is neither the first one nor painted there.
      · split_ifs with hisfirst hstart hmark
        · exact Rect.contains_iff.mpr ⟨by have := hfirst hisfirst; omega, hy⟩
        · exact Rect.contains_iff.mpr ⟨by omega, hy⟩
        · exact Rect.contains_iff.mpr ⟨by omega, hy⟩
        · exact Rect.contains_iff.mpr ⟨by omega, hy⟩
      · obtain ⟨i, hi, rfl⟩ := List.mem_map.mp hs
        have hi := List.mem_range.mp hi
        exact Rect.contains_iff.mpr ⟨by omega, hy⟩
      · exact ih (by omega) nofun

theorem labelStrokes_within {y : Nat} (hy : area.y ≤ y ∧ y < area.bottom) (spans : List Span) {x : Nat}
    (hx : area.x ≤ x) : ∀ s ∈ labelStrokes y area.right x spans, s.Within area := by
  induction spans generalizing x with
  | nil => exact List.forall_mem_nil _
  | cons span spans ih =>
    rw [labelStrokes]
    split_ifs with hblank hfull
    · exact ih hx
    · exact List.forall_mem_nil _
    · exact List.forall_mem_append.mpr
        ⟨clusterStrokes_within hx (Nat.lt_of_not_le hfull) hy _ _ (Nat.le_refl _) fun _ => rfl,
          ih (by omega)⟩

/-- **A label lies within its area.** -/
theorem label_within (area : Rect) (spans : List Span) : ∀ s ∈ label area spans, s.Within area := by
  rw [label]
  split_ifs with hempty
  · exact List.forall_mem_nil _
  · have hroom := Rect.not_isEmpty_iff.mp hempty
    exact labelStrokes_within ⟨Nat.le_refl _, Nat.lt_add_of_pos_right hroom.2⟩ spans (Nat.le_refl _)

/-! ### Paragraphs -/

theorem lineColumns_cons (g : List Char) (style : Style) (line : List (List Char × Style)) :
    lineColumns ((g, style) :: line) = Text.columns g + lineColumns line := by
  simp only [lineColumns, ← List.sum_eq_foldl, List.map_cons, List.sum_cons]

/-- What is fitted into a line is no wider than what is left of it. -/
theorem lineColumns_fitted {limit used : Nat} (h : used ≤ limit) (line : List (List Char × Style)) :
    used + lineColumns (fitted limit used line) ≤ limit := by
  induction line generalizing used with
  | nil => exact h
  | cons m line ih =>
    obtain ⟨g, style⟩ := m
    rw [fitted]
    split_ifs with hwide hfull
    · exact ih h
    · exact h
    · rw [lineColumns_cons, ← Nat.add_assoc]
      exact ih (Nat.le_of_not_lt hfull)

theorem lineStrokes_within {y : Nat} (hy : area.y ≤ y ∧ y < area.bottom)
    (line : List (List Char × Style)) {x : Nat} (hx : area.x ≤ x)
    (hfits : x + lineColumns line ≤ area.right) : ∀ s ∈ lineStrokes y x line, s.Within area := by
  induction line generalizing x with
  | nil => exact List.forall_mem_nil _
  | cons m line ih =>
    obtain ⟨g, style⟩ := m
    rw [lineColumns_cons] at hfits
    rw [lineStrokes]
    split_ifs with hmark
    · exact ih hx (by omega)
    · exact List.forall_mem_cons.mpr
        ⟨Rect.contains_iff.mpr ⟨by omega, hy⟩, ih (by omega) (by omega)⟩

/-- **A paragraph lies within its area**, also where its lines stand in the middle. -/
theorem paragraph_within (area : Rect) (lines : List (List Span)) (centred : Bool) :
    ∀ s ∈ paragraph area lines centred, s.Within area := by
  rw [paragraph]
  by_cases hempty : area.isEmpty
  · rw [if_pos hempty]
    exact List.forall_mem_nil _
  · rw [if_neg hempty]
    rintro s hs
    obtain ⟨⟨line, i⟩, hline, hs⟩ := List.mem_flatMap.mp hs
    have hi : i < area.height :=
      Nat.lt_of_lt_of_le (List.snd_lt_of_mem_zipIdx hline) (List.length_take_le _ _)
    have hfits := lineColumns_fitted (Nat.zero_le area.width) (lineClusters line)
    refine lineStrokes_within ⟨Nat.le_add_right _ _, ?_⟩ _ (Nat.le_add_right _ _) ?_ s hs
    · exact Nat.add_lt_add_left hi _
    · simp only [Rect.right]
      split_ifs <;> omega

/-- **A text lies within its area.** -/
theorem text_within (area : Rect) (style : Style) (s : String) : ∀ t ∈ text area style s, t.Within area :=
  List.forall_mem_cons.mpr ⟨Rect.Inside.refl area, paragraph_within _ _ _⟩

end Lettering

/-! ### Panels -/

namespace Panel

variable {area : Rect}

theorem border_within (h : 0 < area.width ∧ 0 < area.height) (style : Style) :
    ∀ s ∈ border area style, s.Within area := by
  have hright : area.x ≤ area.right - 1 ∧ area.right - 1 < area.right := by
    simp only [Rect.right]
    omega
  have hbottom : area.y ≤ area.bottom - 1 ∧ area.bottom - 1 < area.bottom := by
    simp only [Rect.bottom]
    omega
  have hx : area.x ≤ area.x ∧ area.x < area.right := ⟨Nat.le_refl _, Nat.lt_add_of_pos_right h.1⟩
  have hy : area.y ≤ area.y ∧ area.y < area.bottom := ⟨Nat.le_refl _, Nat.lt_add_of_pos_right h.2⟩
  have hcell : ∀ {x y : Nat} (symbol : String), area.x ≤ x ∧ x < area.right →
      area.y ≤ y ∧ y < area.bottom → (Stroke.put x y symbol style).Within area :=
    fun _ hx hy => Rect.contains_iff.mpr ⟨hx, hy⟩
  simp only [border, List.forall_mem_append, List.forall_mem_map, List.forall_mem_cons]
  exact ⟨⟨⟨⟨fun _ h => hcell _ hx (Rect.mem_lines.mp h), fun _ h => hcell _ (Rect.mem_columns.mp h) hy⟩,
    fun _ h => hcell _ hright (Rect.mem_lines.mp h)⟩, fun _ h => hcell _ (Rect.mem_columns.mp h) hbottom⟩,
    hcell _ hright hbottom, hcell _ hright hy, hcell _ hx hbottom, hcell _ hx hy, List.forall_mem_nil _⟩

theorem titleArea_inside (h : 0 < area.width ∧ 0 < area.height) (title : List Span) :
    (titleArea area title).Inside area := by
  have hwidth : (titleArea area title).width ≤ area.width - 2 := Nat.min_le_left _ _
  refine ⟨Nat.le_succ _, ?_, Nat.le_refl _, ?_⟩
  · show area.x + 1 + (titleArea area title).width ≤ area.x + area.width
    omega
  · exact Nat.add_le_add_left h.2 _

/-- **A panel lies within its area.** -/
theorem strokes_within (area : Rect) (title : String) (style : Style) :
    ∀ s ∈ strokes area title style, s.Within area := by
  rw [strokes]
  split_ifs with hempty
  · exact List.forall_mem_nil _
  · have hroom := Rect.not_isEmpty_iff.mp hempty
    exact List.forall_mem_append.mpr ⟨border_within hroom _, fun s hs =>
      (Lettering.label_within _ _ s hs).mono (titleArea_inside hroom _)⟩

end Panel

end ProfileBrowser
