import ProfileBrowser.Binary64.Basic
import ProfileBrowser.Screen.Rect
/-!
# Layout of the screen

Where the parts of the screen stand: the header and the tabs on top, the status line at the bottom,
and between them the content, which two panels share in the combined mode; the columns of the table;
and the overlays.
-/

namespace ProfileBrowser.Layout

open Binary64 (roundHalfUp)

/-! ### Lines -/

/-- The line of the header. -/
def header (screen : Rect) : Rect := { screen with height := min 1 screen.height }

/-- The line of the tabs. -/
def tabs (screen : Rect) : Rect :=
  { screen with y := screen.y + min 1 screen.height, height := min 1 (screen.height - 1) }

/-- What is between the tabs and the status line. -/
def content (screen : Rect) : Rect :=
  { screen with y := screen.y + min 2 screen.height, height := screen.height - 3 }

/-- The status line; there is none before the three other parts have a line. -/
def status (screen : Rect) : Rect :=
  { screen with y := screen.y + (content screen).height + min 2 screen.height,
                height := min 1 (screen.height - 2) }

/-! ### Two panels -/

/-- The width of the left panel: 45 of 100 parts. -/
def leftWidth (width : Nat) : Nat := roundHalfUp (45 * width) 100

/-- The left panel. -/
def leftPanel (area : Rect) : Rect := { area with width := leftWidth area.width }

/-- The right panel. -/
def rightPanel (area : Rect) : Rect :=
  { area with x := area.x + leftWidth area.width, width := area.width - leftWidth area.width }

/-! ### Columns of the table -/

/-- The widths, in twelfths of a column, of four columns that share a room of whole columns. The
first takes three parts and the others one part each, but not less than 10, 10 and 9; where those
least widths do not fit, the first has nothing, and the last has its least width only if that leaves
the two others more. -/
def columnWidths (room : Nat) : List Nat :=
  if 29 ≤ room then
    let sixth := 2 * room
    let quarter := 3 * (room - 20)
    let third := 4 * (room - 29)
    let part := if 120 ≤ sixth then sixth else if 108 ≤ quarter then quarter else third
    [3 * part, max part 120, max part 120, max part 108]
  else
    let last := min 108 (4 * room)
    let other := (12 * room - last) / 2
    [0, other, other, last]

/-- Columns of the given widths in twelfths, side by side with one column between them, every edge
at the nearest whole column and none beyond `limit`; each is its start and its width. -/
def placeColumns (limit : Nat) : Nat → List Nat → List (Nat × Nat)
  | _, [] => []
  | start, width :: rest =>
    let edge (twelfths : Nat) : Nat := min limit (roundHalfUp twelfths 12)
    (edge start, edge (start + width) - edge start) :: placeColumns limit (start + width + 12) rest

/-- The columns of a table of a width. -/
def columns (width : Nat) : List (Nat × Nat) := placeColumns width 0 (columnWidths (width - 3))

/-! ### Overlays -/

/-- Where the loading mark stands: at the upper right, one column from the edge. -/
def loading (area : Rect) (textWidth : Nat) : Rect :=
  let width := min textWidth area.width
  { x := area.x + (area.width - (width + 1)), y := area.y, width, height := min 1 area.height }

/-- Where it is said that there is no data. -/
def noData (area : Rect) : Rect := area.centred (min 60 (area.width - 2)) (min 4 area.height)

/-- Where the help stands. -/
def help (area : Rect) : Rect := area.centred (min 44 (area.width - 4)) (min 30 (area.height - 2))

end ProfileBrowser.Layout
