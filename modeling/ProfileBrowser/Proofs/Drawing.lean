import ProfileBrowser.Proofs.Strokes
import ProfileBrowser.Screen.Draw
/-!
# Drawing stays inside

The flame graph and the overlays paint only cells of the area that they are given, whatever its size, and
on a screen whose width and height are words of 16 bits they compute with such words alone.

That no sum and no difference leaves the words is said by definitions in which it could: every one of
them that the drawing makes is `Word.shortSum?` or `Word.shortDifference?`, which have no result where the
sum or the difference is no word. They come to the same as the definitions that draw (`FlamePanel.bar?_eq`,
`Layout.loading?_eq`, `Rect.centred?_eq`), since an area of the screen has its edges among the words
(`Rect.Short`). The columns of a frame are rounded from numbers that may be anything, even infinite or no
number; they are cut off at the width of the panel before anything is added to them
(`FlamePanel.extent_fits`).
-/

namespace ProfileBrowser

/-! ### Words of 16 bits -/

namespace Word

variable {a b : Nat}

/-- The sum of two words of 16 bits, if it is one. -/
def shortSum? (a b : Nat) : Option Nat := if a + b ≤ greatestShort then some (a + b) else none

/-- The difference of two words of 16 bits, if it is one. -/
def shortDifference? (a b : Nat) : Option Nat := if b ≤ a then some (a - b) else none

theorem shortSum?_eq (h : a + b ≤ greatestShort) : shortSum? a b = some (a + b) := if_pos h

theorem shortDifference?_eq (h : b ≤ a) : shortDifference? a b = some (a - b) := if_pos h

end Word

open Word (shortSum? shortDifference? shortSum?_eq shortDifference?_eq)

namespace Rect

variable {r s : Rect}

/-- The edges of an area are words of 16 bits. -/
def Short (r : Rect) : Prop := r.right ≤ Word.greatestShort ∧ r.bottom ≤ Word.greatestShort

theorem Inside.short (h : r.Inside s) (hs : s.Short) : r.Short :=
  ⟨Nat.le_trans h.2.1 hs.1, Nat.le_trans h.2.2.2 hs.2⟩

/-- The areas of a screen are short. -/
theorem short_of_screen {width height : UInt16}
    (h : r.Inside (Canvas.blank width.toNat height.toNat).area) : r.Short := by
  have hscreen : (Canvas.blank width.toNat height.toNat).area.Short := by
    have hwidth := width.toNat_lt
    have hheight := height.toNat_lt
    simp only [Short, right, bottom, Canvas.area, Canvas.blank, Word.greatestShort]
    omega
  exact h.short hscreen

/-- `centred` in words of 16 bits. -/
def centred? (outer : Rect) (width height : Nat) : Option Rect := do
  let x ← shortSum? outer.x ((outer.width - width) / 2)
  let y ← shortSum? outer.y ((outer.height - height) / 2)
  return { x, y, width, height }

theorem centred?_eq (h : r.Short) (width height : Nat) :
    r.centred? width height = some (r.centred width height) := by
  simp only [Short, right, bottom] at h
  rw [centred?, shortSum?_eq (by omega), shortSum?_eq (by omega)]
  rfl

/-- `line` in words of 16 bits. -/
def line? (r : Rect) (i : Nat) : Option Rect := do
  let y ← shortSum? r.y i
  return { r with y, height := 1 }

theorem line?_eq (h : r.Short) {i : Nat} (hi : i < r.height) : r.line? i = some (r.line i) := by
  simp only [Short, right, bottom] at h
  rw [line?, shortSum?_eq (by omega)]
  rfl

end Rect

/-! ### Layout -/

namespace Layout

variable {area : Rect}

theorem content_inside (screen : Rect) : (content screen).Inside screen := by
  simp only [Rect.Inside, content, Rect.right, Rect.bottom]
  omega

theorem rightPanel_inside (area : Rect) : (rightPanel area).Inside area := by
  simp only [Rect.Inside, rightPanel, leftWidth, Binary64.roundHalfUp, Rect.right, Rect.bottom]
  omega

theorem loading_inside (area : Rect) (textWidth : Nat) : (loading area textWidth).Inside area := by
  simp only [Rect.Inside, loading, Rect.right, Rect.bottom]
  omega

theorem noData_inside (area : Rect) : (noData area).Inside area :=
  Rect.centred_inside (by omega) (by omega)

theorem help_inside (area : Rect) : (help area).Inside area :=
  Rect.centred_inside (by omega) (by omega)

/-- `loading` in words of 16 bits. -/
def loading? (area : Rect) (textWidth : Nat) : Option Rect := do
  let width := min textWidth area.width
  let beside ← shortSum? width 1
  let x ← shortSum? area.x (area.width - beside)
  return { x, y := area.y, width, height := min 1 area.height }

theorem loading?_eq (h : area.Short) {textWidth : Nat} (htext : textWidth < Word.greatestShort) :
    loading? area textWidth = some (loading area textWidth) := by
  simp only [Rect.Short, Rect.right, Rect.bottom] at h
  simp only [loading?, Option.bind_eq_bind]
  rw [shortSum?_eq (by omega), Option.bind_some, shortSum?_eq (by omega)]
  rfl

end Layout

/-! ### Labels -/

namespace Direction

theorem length_truncateChars (d : Direction) (label : List Char) (width : Nat) :
    (d.truncateChars label width).length ≤ width := by
  rw [truncateChars.eq_def]
  split_ifs with hfits hzero
  · exact hfits
  · exact Nat.zero_le _
  · cases d with
    | ltr =>
      rw [List.length_append, List.length_take, List.length_singleton]
      omega
    | rtl =>
      rw [List.length_cons, List.length_drop]
      omega

/-- **A cell's text** has as many characters as the cell. -/
theorem length_cellText (d : Direction) (name : String) (width : Nat) :
    (d.cellText name width).length = width := by
  rw [cellText]
  split_ifs with hnarrow
  · exact List.length_replicate
  · have hlabel := d.length_truncateChars name.toList (width - 1)
    rw [List.length_append, List.length_cons, List.length_replicate]
    omega

end Direction

/-! ### The flame graph -/

namespace FlamePanel

open Flame (Frame)

variable {inner : Rect} {f : Frame Binary64} {first length : Nat} (weigh : FlameNode → Nat)

/-- The part of a panel's inside for frames: all but its last line. -/
def graph (inner : Rect) : Rect := { inner with height := graphLines inner }

/-- **A frame that starts inside** covers at least one column and none to the right. -/
theorem extent_fits {start size : Binary64} {width first length : Nat}
    (h : extent start size width = some (first, length)) :
    first = column start width ∧ first < width ∧ 1 ≤ length ∧ length ≤ width - first := by
  simp only [extent] at h
  split_ifs at h with houtside
  obtain ⟨rfl, rfl⟩ := Prod.mk.inj (Option.some.inj h)
  exact ⟨rfl, by omega, by omega, by omega⟩

theorem extent_of_lt {start : Binary64} {width : Nat} (h : column start width < width)
    (size : Binary64) : ∃ length, extent start size width = some (column start width, length) :=
  ⟨_, if_neg (Nat.not_le_of_lt h)⟩

/-- `extent` in words of 16 bits. -/
def extent? (start size : Binary64) (width : Nat) : Option (Option (Nat × Nat)) :=
  let first := column start width
  if width ≤ first then some none
  else do
    let room ← shortDifference? width first
    return some (first, min (max (column (start + size) width - first) 1) room)

theorem extent?_eq (start size : Binary64) (width : Nat) :
    extent? start size width = some (extent start size width) := by
  simp only [extent?, extent]
  split_ifs with houtside
  · rfl
  · rw [shortDifference?_eq (by omega)]
    rfl

/-- A column of a frame in words of 16 bits, and the line of the frame. -/
def place? (inner : Rect) (first row i : Nat) : Option (Nat × Nat) := do
  let start ← shortSum? inner.x first
  let x ← shortSum? start i
  let y ← shortSum? inner.y row
  return (x, y)

theorem place?_eq (h : inner.Short) {first row i : Nat} (hi : first + i < inner.width)
    (hrow : row < inner.height) :
    place? inner first row i = some (inner.x + first + i, inner.y + row) := by
  simp only [Rect.Short, Rect.right, Rect.bottom] at h
  simp only [place?, Option.bind_eq_bind]
  rw [shortSum?_eq (by omega), Option.bind_some, shortSum?_eq (by omega), Option.bind_some,
    shortSum?_eq (by omega)]
  rfl

/-- `bar` in words of 16 bits; of the text only as many characters as there are columns. -/
def bar? (v : Viewer) (inner : Rect) (f : Frame Binary64) : Option (List Stroke) :=
  if graphLines inner ≤ row f then some []
  else do
    match ← extent? f.start f.width inner.width with
    | none => return []
    | some (first, length) =>
      let style := frameStyle v.theme v.controller.filterKeywords v.view.highlight f.node
      ((v.view.direction.cellText f.node.name length).zipIdx.take length).mapM fun (c, i) => do
        let (x, y) ← place? inner first (row f) i
        return .put x y c.toString style

/-- The style in which a viewer shows a frame. -/
def styleOf (v : Viewer) (f : Frame Binary64) : Style :=
  frameStyle v.theme v.controller.filterKeywords v.view.highlight f.node

theorem bar_eq_puts (v : Viewer) (hrow : row f < graphLines inner)
    (h : extent f.start f.width inner.width = some (first, length)) :
    bar v inner f = Canvas.puts (inner.x + first) (inner.y + row f) (styleOf v f)
      (v.view.direction.cellText f.node.name length) 0 := by
  rw [bar, if_neg (Nat.not_le_of_lt hrow), h]
  rfl

/-- **A bar** of a frame on the lines and the columns of the graph is one line of cells in its style. -/
theorem bar_of_visible (v : Viewer) (hrow : row f < graphLines inner)
    (hcolumn : column f.start inner.width < inner.width) :
    ∃ symbols : List Char,
      bar v inner f = Canvas.puts (inner.x + column f.start inner.width) (inner.y + row f) (styleOf v f)
        symbols 0 ∧
      1 ≤ symbols.length ∧ symbols.length ≤ inner.width - column f.start inner.width := by
  obtain ⟨length, hextent⟩ := extent_of_lt hcolumn f.width
  obtain ⟨-, -, hpositive, hfits⟩ := extent_fits hextent
  have htext := v.view.direction.length_cellText f.node.name length
  refine ⟨v.view.direction.cellText f.node.name length, bar_eq_puts v hrow hextent, ?_, ?_⟩
  · rwa [htext]
  · rwa [htext]

/-- Of other frames there is none. -/
theorem bar_of_hidden (v : Viewer)
    (h : ¬(row f < graphLines inner ∧ column f.start inner.width < inner.width)) : bar v inner f = [] := by
  rw [bar]
  split_ifs with hrow
  · rfl
  · have hcolumn : inner.width ≤ column f.start inner.width := by omega
    rw [extent, if_pos hcolumn]

/-- **A bar lies above the last line**, inside the panel. -/
theorem bar_within (v : Viewer) (inner : Rect) (f : Frame Binary64) :
    ∀ s ∈ bar v inner f, s.Within (graph inner) := by
  by_cases h : row f < graphLines inner ∧ column f.start inner.width < inner.width
  · obtain ⟨symbols, hbar, -, hfits⟩ := bar_of_visible v h.1 h.2
    intro s hs
    rw [hbar] at hs
    refine (Canvas.puts_within _ _ _ _ _ s hs).mono ?_
    simp only [Rect.Inside, Rect.right, Rect.bottom, graph]
    omega
  · rw [bar_of_hidden v h]
    exact List.forall_mem_nil _

theorem graph_inside (inner : Rect) : (graph inner).Inside inner := by
  simp only [Rect.Inside, graph, graphLines, Rect.right, Rect.bottom]
  omega

theorem mapM_eq_map {α β : Type} {f : α → Option β} {g : α → β} {as : List α}
    (h : ∀ a ∈ as, f a = some (g a)) : as.mapM f = some (as.map g) := by
  induction as with
  | nil => rfl
  | cons a as ih =>
    rw [List.mapM_cons, h a List.mem_cons_self, ih fun b hb => h b (List.mem_cons_of_mem _ hb)]
    rfl

/-- **Bars are painted in words of 16 bits.** -/
theorem bar?_eq (h : inner.Short) (v : Viewer) (f : Frame Binary64) :
    bar? v inner f = some (bar v inner f) := by
  rw [bar?, bar]
  split_ifs with hrow
  · rfl
  · rw [extent?_eq, Option.bind_eq_bind, Option.bind_some]
    cases hextent : extent f.start f.width inner.width with
    | none => rfl
    | some columns =>
      obtain ⟨first, length⟩ := columns
      obtain ⟨-, hfirst, -, hfits⟩ := extent_fits hextent
      have htext : ((v.view.direction.cellText f.node.name length).zipIdx).length = length := by
        rw [List.length_zipIdx, Direction.length_cellText]
      -- The text has as many characters as the bar has columns, so none is cut off.
      show (List.take length _).mapM _ = some _
      rw [List.take_of_length_le (Nat.le_of_eq htext)]
      refine mapM_eq_map fun (c, i) hc => ?_
      have hi : i < length := by
        have hlt := List.snd_lt_of_mem_zipIdx hc
        rwa [Direction.length_cellText] at hlt
      have hgraph : graphLines inner ≤ inner.height := Nat.sub_le _ _
      have hplace : place? inner first (row f) i = some (inner.x + first + i, inner.y + row f) :=
        place?_eq h (by omega) (by omega)
      show (place? inner first (row f) i >>= _) = _
      rw [hplace]
      rfl

/-- The border of the panel with its title. -/
def frameStrokes (v : Viewer) (area : Rect) : List Stroke :=
  Panel.strokes area (title v.controller.filterKeywords) (.ink v.theme.border)

/-- **With a tree and with room inside** the panel is its border, then the bars of the layout's frames, then
the description. -/
theorem strokesBy_of_some {v : Viewer} {root : FlameNode} {area : Rect} (hroot : v.view.flame = some root)
    (hroom : ¬area.inner.isEmpty) :
    strokesBy weigh v area = frameStrokes v area ++
      ((Flame.layoutBy weigh root).flatMap (bar v area.inner) ++ detail weigh v area.inner root) := by
  rw [strokesBy, hroot]
  exact congrArg _ (if_neg hroom)

/-- Otherwise there is only the border. -/
theorem strokesBy_of_none {v : Viewer} {area : Rect} (h : v.view.flame = none ∨ area.inner.isEmpty) :
    strokesBy weigh v area = frameStrokes v area := by
  rw [strokesBy]
  refine (congrArg _ ?_).trans (List.append_nil _)
  rcases h with hnone | hempty
  · rw [hnone]
  · split
    · rfl
    · exact if_pos hempty

theorem bars_within (v : Viewer) (inner : Rect) (frames : List (Frame Binary64)) :
    ∀ s ∈ frames.flatMap (bar v inner), s.Within (graph inner) := by
  intro s hs
  obtain ⟨f, -, hs⟩ := List.mem_flatMap.mp hs
  exact bar_within v inner f s hs

/-- In a panel with room inside there is a line for the description. -/
theorem graphLines_lt (h : ¬inner.isEmpty) : graphLines inner < inner.height := by
  have hroom := (Rect.not_isEmpty_iff.mp h).2
  simp only [graphLines]
  omega

/-- **The panel lies within its area.** -/
theorem strokesBy_within (v : Viewer) (area : Rect) : ∀ s ∈ strokesBy weigh v area, s.Within area := by
  have hframe : ∀ s ∈ frameStrokes v area, s.Within area := Panel.strokes_within _ _ _
  by_cases hnone : v.view.flame = none ∨ area.inner.isEmpty
  · rwa [strokesBy_of_none weigh hnone]
  · obtain ⟨hsome, hroom⟩ := not_or.mp hnone
    obtain ⟨root, hroot⟩ := Option.ne_none_iff_exists'.mp hsome
    rw [strokesBy_of_some weigh hroot hroom]
    refine List.forall_mem_append.mpr ⟨hframe, List.forall_mem_append.mpr ⟨fun s hs => ?_, fun s hs => ?_⟩⟩
    · exact (bars_within v _ _ s hs).mono ((graph_inside _).trans area.inner_inside)
    · exact (Lettering.text_within _ _ _ s hs).mono
        ((Rect.line_inside (graphLines_lt hroom)).trans area.inner_inside)

/-- What is said of strokes that are the panel of a viewer in an area. -/
structure Fits (v : Viewer) (area : Rect) (strokes : List Stroke) : Prop where
  /-- All that is painted lies in the area. -/
  within : ∀ s ∈ strokes, s.Within area
  /-- So does what is inside the border. -/
  inner : area.inner.Inside area
  /-- If that has a cell, the line of the description is inside, and the sum for it is a word. -/
  line : ¬area.inner.isEmpty →
    area.inner.line? (graphLines area.inner) = some (area.inner.line (graphLines area.inner)) ∧
      (area.inner.line (graphLines area.inner)).Inside area.inner
  /-- The part for bars is inside too, and above that line. -/
  graph : (graph area.inner).Inside area.inner ∧
    (graph area.inner).bottom ≤ (area.inner.line (graphLines area.inner)).y
  /-- If there is a tree, the border is painted, then the bars of the layout's frames inside of it, each of
  them in the part for bars, and then the description in its line. -/
  painted : ∀ root, v.view.flame = some root → ¬area.inner.isEmpty →
    strokes = frameStrokes v area ++
      ((Flame.layoutBy weigh root).flatMap (bar v area.inner) ++ detail weigh v area.inner root) ∧
    (∀ s ∈ (Flame.layoutBy weigh root).flatMap (bar v area.inner),
      s.Within (FlamePanel.graph area.inner)) ∧
    ∀ s ∈ detail weigh v area.inner root, s.Within (area.inner.line (graphLines area.inner))
  /-- Without a tree or a cell inside only the border is painted. -/
  bare : v.view.flame = none ∨ area.inner.isEmpty → strokes = frameStrokes v area
  /-- The bar of any frame is painted in that part, with sums and differences that are words. -/
  bars : ∀ f, bar? v area.inner f = some (bar v area.inner f) ∧
    ∀ s ∈ bar v area.inner f, s.Within (FlamePanel.graph area.inner)
  /-- A frame on the lines and the columns of the graph covers at least one cell and at most those from
  its column to the right edge. -/
  covers : ∀ f, row f < graphLines area.inner → column f.start area.inner.width < area.inner.width →
    ∃ symbols : List Char,
      bar v area.inner f = Canvas.puts (area.inner.x + column f.start area.inner.width)
        (area.inner.y + row f) (styleOf v f) symbols 0 ∧
      1 ≤ symbols.length ∧ symbols.length ≤ area.inner.width - column f.start area.inner.width
  /-- No other frame covers any. -/
  hides : ∀ f, ¬(row f < graphLines area.inner ∧ column f.start area.inner.width < area.inner.width) →
    bar v area.inner f = []

/-- **The panel fits** into every area with short edges. -/
theorem fits_of_short {area : Rect} (h : area.Short) (v : Viewer) :
    Fits weigh v area (strokesBy weigh v area) where
  within := strokesBy_within weigh v area
  inner := area.inner_inside
  line hroom := ⟨Rect.line?_eq (area.inner_inside.short h) (graphLines_lt hroom),
    Rect.line_inside (graphLines_lt hroom)⟩
  graph := ⟨graph_inside _, Nat.le_refl _⟩
  painted _ hroot hroom := ⟨strokesBy_of_some weigh hroot hroom, bars_within v _ _, Lettering.text_within _ _ _⟩
  bare hnone := strokesBy_of_none weigh hnone
  bars f := ⟨bar?_eq (area.inner_inside.short h) v f, bar_within v area.inner f⟩
  covers _ hrow hcolumn := bar_of_visible v hrow hcolumn
  hides _ h := bar_of_hidden v h

end FlamePanel

/-! ### Overlays -/

namespace Overlays

theorem box_within (area : Rect) (title : String) (border : Colour) (lines : List (List Span))
    (centred : Bool) : ∀ s ∈ box area title border lines centred, s.Within area := by
  refine List.forall_mem_cons.mpr ⟨Rect.Inside.refl area, List.forall_mem_append.mpr
    ⟨Panel.strokes_within _ _ _, fun s hs => ?_⟩⟩
  exact (Lettering.paragraph_within _ _ _ s hs).mono area.inner_inside

/-- What is said of the overlays of a viewer over an area. -/
structure Fits (v : Viewer) (area : Rect) : Prop where
  /-- The mark of loading has a place in the area, with sums that are words, and is painted there. -/
  loading : Layout.loading? area loadingText.length = some (Layout.loading area loadingText.length) ∧
    (Layout.loading area loadingText.length).Inside area ∧
    ∀ s ∈ loading v area, s.Within (Layout.loading area loadingText.length)
  /-- So has the word that there is no data. -/
  noData : area.centred? (min 60 (area.width - 2)) (min 4 area.height) = some (Layout.noData area) ∧
    (Layout.noData area).Inside area ∧ ∀ s ∈ noData v area, s.Within (Layout.noData area)
  /-- So has the help. -/
  help : area.centred? (min 44 (area.width - 4)) (min 30 (area.height - 2)) = some (Layout.help area) ∧
    (Layout.help area).Inside area ∧ ∀ s ∈ help v area, s.Within (Layout.help area)

/-- **The overlays fit** over every area with short edges. -/
theorem fits_of_short {area : Rect} (h : area.Short) (v : Viewer) : Fits v area where
  loading := ⟨Layout.loading?_eq h (by decide), Layout.loading_inside _ _, Lettering.text_within _ _ _⟩
  noData := ⟨Rect.centred?_eq h _ _, Layout.noData_inside _, box_within _ _ _ _ _⟩
  help := ⟨Rect.centred?_eq h _ _, Layout.help_inside _, box_within _ _ _ _ _⟩

end Overlays

/-! ### The screen -/

namespace Viewer

/-- **Drawing stays inside.** On a screen whose width and height are any words of 16 bits, and in any area
of it, the flame graph and the overlays fit, and they change no cell outside of that area. This holds whatever
the nodes of the tree weigh, also where a sum of weights is no word. The areas that they are given by a whole
frame are such: the content, its right half and the screen. -/
theorem drawing_stays_inside (v : Viewer) (width height : UInt16) {area : Rect}
    (harea : area.Inside (Canvas.blank width.toNat height.toNat).area) :
    FlamePanel.Fits FlameNode.weight v area (FlamePanel.strokes v area) ∧
    (∀ weigh : FlameNode → Nat, FlamePanel.Fits weigh v area (FlamePanel.strokesBy weigh v area)) ∧
    Overlays.Fits v area ∧
    (∀ (weigh : FlameNode → Nat) (c : Canvas) (x y : Nat), x < c.width → ¬area.contains x y →
      ∀ strokes ∈ [FlamePanel.strokesBy weigh v area, Overlays.loading v area, Overlays.noData v area,
        Overlays.help v area], (c.paint strokes).cell x y = c.cell x y) ∧
    ∀ screen : Rect, (Layout.content screen).Inside screen ∧
      (Layout.rightPanel (Layout.content screen)).Inside screen := by
  have hflame := fun weigh => FlamePanel.fits_of_short weigh (Rect.short_of_screen harea) v
  have hoverlays := Overlays.fits_of_short (Rect.short_of_screen harea) v
  refine ⟨hflame FlameNode.weight, hflame, hoverlays, fun weigh c x y hx hout strokes hstrokes => ?_,
    fun screen => ?_⟩
  · have hwithin : ∀ s ∈ strokes, s.Within area := by
      simp only [List.mem_cons, List.not_mem_nil, or_false] at hstrokes
      rcases hstrokes with rfl | rfl | rfl | rfl
      · exact (hflame weigh).within
      · exact fun s hs => (hoverlays.loading.2.2 s hs).mono hoverlays.loading.2.1
      · exact fun s hs => (hoverlays.noData.2.2 s hs).mono hoverlays.noData.2.1
      · exact fun s hs => (hoverlays.help.2.2 s hs).mono hoverlays.help.2.1
    exact (Canvas.sameAt_paint hwithin hout hx).2
  · exact ⟨Layout.content_inside _, (Layout.rightPanel_inside _).trans (Layout.content_inside _)⟩

/-- A tree of two lines in the lower right part of a small screen. There are lines for bars and one for the
description; each of the frames covers cells, and so do the mark of loading and the help. What was painted
above the area stays there. -/
theorem drawing_stays_inside_corner :
    let root : FlameNode := .mk 1 "main" 8 [.mk 2 "read" 3 [], .mk 3 "parse" 5 []]
    let shown : Controller := { (default : Controller) with view := { flame := some root } }
    let v : Viewer := { exchange := { (default : Exchange) with controller := shown }, source := "scripted" }
    let area : Rect := { x := 2, y := 1, width := 10, height := 6 }
    let before : Canvas := (Canvas.blank 12 7).paint [.put 4 0 "x" .plain]
    (area.Inside (Canvas.blank (12 : UInt16).toNat (7 : UInt16).toNat).area ∧ 4 < before.width ∧
      ¬area.contains 4 0) ∧
    FlamePanel.Fits FlameNode.weight v area (FlamePanel.strokes v area) ∧ Overlays.Fits v area ∧
    (FlamePanel.strokes v area = FlamePanel.frameStrokes v area ++
      ((Flame.layout root).flatMap (FlamePanel.bar v area.inner) ++
        FlamePanel.detail FlameNode.weight v area.inner root) ∧
      (Flame.layout root).map (fun f => (FlamePanel.bar v area.inner f).length) = [8, 3, 5]) ∧
    (Overlays.loading v area ≠ [] ∧ Overlays.help v area ≠ []) ∧
    ∀ strokes ∈ [FlamePanel.strokes v area, Overlays.loading v area, Overlays.noData v area,
      Overlays.help v area], (before.paint strokes).cell 4 0 = before.cell 4 0 := by
  intro root shown v area before
  have harea : area.Inside (Canvas.blank (12 : UInt16).toNat (7 : UInt16).toNat).area :=
    ⟨by decide, by decide, by decide, by decide⟩
  have hwidth : 4 < before.width := by decide
  have hout : ¬area.contains 4 0 := by decide
  obtain ⟨hflame, -, hoverlays, houtside, -⟩ := drawing_stays_inside v 12 7 harea
  have hpainted := (hflame.painted root rfl (by decide)).1
  exact ⟨⟨harea, hwidth, hout⟩, hflame, hoverlays, ⟨hpainted, by decide +kernel⟩,
    ⟨List.cons_ne_nil _ _, List.cons_ne_nil _ _⟩, houtside FlameNode.weight before 4 0 hwidth hout⟩

end Viewer

end ProfileBrowser
