/-!
# Rectangles of the screen

Areas of character cells, given by their upper left corner and their size. A size may be zero. Every
subtraction stops at zero, so an area that is too small for what is to be cut off has nothing left.
-/

namespace ProfileBrowser

/-- An area of cells. -/
structure Rect where
  x : Nat := 0
  y : Nat := 0
  width : Nat := 0
  height : Nat := 0
deriving DecidableEq, Repr, Inhabited

namespace Rect

/-- The first column to the right of an area. -/
def right (r : Rect) : Nat := r.x + r.width

/-- The first line below an area. -/
def bottom (r : Rect) : Nat := r.y + r.height

/-- Whether an area has no cell. -/
def isEmpty (r : Rect) : Bool := r.width = 0 || r.height = 0

/-- Whether a cell lies in an area. -/
def contains (r : Rect) (x y : Nat) : Bool :=
  r.x ≤ x && x < r.right && r.y ≤ y && y < r.bottom

/-- Whether every cell of the area lies in another one. -/
def Inside (r outer : Rect) : Prop :=
  outer.x ≤ r.x ∧ r.right ≤ outer.right ∧ outer.y ≤ r.y ∧ r.bottom ≤ outer.bottom

/-- The columns of an area. -/
def columns (r : Rect) : List Nat := (List.range r.width).map (r.x + ·)

/-- The lines of an area. -/
def lines (r : Rect) : List Nat := (List.range r.height).map (r.y + ·)

/-- One line of an area, counted from its top. -/
def line (r : Rect) (i : Nat) : Rect := { r with y := r.y + i, height := 1 }

/-- What a border of one cell leaves of an area. -/
def inner (r : Rect) : Rect :=
  { x := min (r.x + 1) r.right, y := min (r.y + 1) r.bottom,
    width := r.width - 2, height := r.height - 2 }

/-- An area of a size in the middle of another one, one cell nearer to the start where the room does
not divide. -/
def centred (outer : Rect) (width height : Nat) : Rect :=
  { x := outer.x + (outer.width - width) / 2, y := outer.y + (outer.height - height) / 2,
    width, height }

end Rect

end ProfileBrowser
