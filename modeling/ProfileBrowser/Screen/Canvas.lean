import ProfileBrowser.Screen.Rect
import ProfileBrowser.Screen.Style
/-!
# Canvases and strokes

A picture is a list of strokes, and a stroke says what happens to a few cells: a later one lies over
an earlier one, and what lies outside the canvas is not painted. Everything that draws gives
strokes, so where a part of the screen paints can be read off its list.
-/

namespace ProfileBrowser

/-! ### Cells -/

/-- A cell of the screen: one grapheme cluster with its colours. -/
structure Cell where
  symbol : String := " "
  foreground : Colour := .reset
  background : Colour := .reset
  modifiers : Modifiers := {}
deriving DecidableEq, Repr, Inhabited

namespace Cell

/-- The cell with a style laid over it. -/
def restyle (c : Cell) (s : Style) : Cell :=
  { c with foreground := s.foreground.getD c.foreground,
           background := s.background.getD c.background,
           modifiers := s.modifiers.union c.modifiers }

end Cell

/-! ### Strokes -/

/-- What happens to some cells. -/
inductive Stroke where
  /-- A symbol with a style. -/
  | put (x y : Nat) (symbol : String) (style : Style)
  /-- Marks that belong to the symbol that is there already. -/
  | join (x y : Nat) (marks : String) (style : Style)
  /-- An empty cell. -/
  | erase (x y : Nat)
  /-- A style over an area. -/
  | restyle (area : Rect) (style : Style)
  /-- An empty area. -/
  | clear (area : Rect)
deriving DecidableEq, Repr, Inhabited

/-! ### Canvases -/

/-- A screen of cells, line by line. -/
structure Canvas where
  width : Nat
  height : Nat
  cells : Array Cell
deriving Inhabited

namespace Canvas

/-- An empty canvas. -/
def blank (width height : Nat) : Canvas := ⟨width, height, Array.replicate (width * height) {}⟩

/-- The whole of a canvas. -/
def area (c : Canvas) : Rect := { width := c.width, height := c.height }

/-- The cell at a place. -/
def cell (c : Canvas) (x y : Nat) : Cell := c.cells.getD (y * c.width + x) {}

/-- Changes the cell at a place, if there is one. -/
def modify (c : Canvas) (x y : Nat) (f : Cell → Cell) : Canvas :=
  if x < c.width ∧ y < c.height then { c with cells := c.cells.modify (y * c.width + x) f } else c

/-- Changes the cells of an area. -/
def modifyArea (c : Canvas) (r : Rect) (f : Cell → Cell) : Canvas :=
  r.lines.foldl (fun c y => r.columns.foldl (fun c x => c.modify x y f) c) c

/-- Paints a stroke. -/
def stroke (c : Canvas) : Stroke → Canvas
  | .put x y symbol style => c.modify x y fun cell => { cell.restyle style with symbol }
  | .join x y marks style =>
    c.modify x y fun cell => { cell.restyle style with symbol := cell.symbol ++ marks }
  | .erase x y => c.modify x y fun _ => {}
  | .restyle area style => c.modifyArea area (Cell.restyle · style)
  | .clear area => c.modifyArea area fun _ => {}

/-- Paints strokes one after the other. -/
def paint (c : Canvas) (strokes : List Stroke) : Canvas := strokes.foldl stroke c

/-- The symbols of a line in one text. -/
def rowText (c : Canvas) (y : Nat) : String :=
  String.join ((List.range c.width).map fun x => (c.cell x y).symbol)

end Canvas

end ProfileBrowser
