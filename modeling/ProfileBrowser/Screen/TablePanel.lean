import ProfileBrowser.Profile.Amount
import ProfileBrowser.Screen.Layout
import ProfileBrowser.Screen.Panel
import ProfileBrowser.View.Input
/-!
# The function table

A heading and the visible rows, with a mark in front of the row under the cursor. The table scrolls
no further than it must to show that row.
-/

namespace ProfileBrowser.TablePanel

/-! ### Texts -/

/-- The arrow of a direction. -/
def arrow (sort : TableSort) : String := if sort.ascending then "↑" else "↓"

/-- The heading of a column, with the arrow in the column of the order. -/
def heading (name : String) (column : SortColumn) (sort : TableSort) : String :=
  if sort.column = column then name ++ " " ++ arrow sort else name

/-- The headings of all columns. -/
def headings (sort : TableSort) : List String :=
  [heading "Name" .name sort, heading "Self" .self sort, heading "Total" .total sort, "Total %"]

/-- The amount that shares refer to: that of the whole flame graph, or without one the greatest in
the table. -/
def whole (view : ViewState) : Nat :=
  match view.flame with
  | some root => root.weight
  | none => (view.table.map (·.total.toNat)).foldl max 0

/-- How many characters of a name are shown, given the width of the table. -/
def nameWidth (width : Nat) : Nat := max (width - 40) 8

/-- The texts of a row. -/
def texts (view : ViewState) (width : Nat) (row : TableRow) : List String :=
  [view.direction.truncate row.name (nameWidth width), Amount.shown row.self.toNat view.unit,
    Amount.shown row.total.toNat view.unit, Amount.share row.total.toNat (whole view)]

/-- What the title says of the filter. -/
def filterText (v : Viewer) : String :=
  if v.filterActive then " /" ++ v.view.filter ++ "_"
  else if v.view.filter.isEmpty then ""
  else " /" ++ v.view.filter ++ "/ [c:clear]"

/-- The row under the cursor, if any row is visible. -/
def cursor (v : Viewer) : Option Nat :=
  let count := v.visibleRows.length
  if count = 0 then none else some (min v.selectedRow (count - 1))

/-- What the title says of the cursor. -/
def positionText (v : Viewer) : String :=
  match cursor v with
  | some i => " [" ++ toString (i + 1) ++ "/" ++ toString v.visibleRows.length ++ "]"
  | none => ""

/-- The title. -/
def title (v : Viewer) : String :=
  " Functions (" ++ toString v.visibleRows.length ++ "/" ++ toString v.view.table.length ++
    ") [s:sort " ++ v.sort.column.key ++ arrow v.sort ++ "]" ++ filterText v ++ positionText v ++
    " "

/-! ### Scrolling -/

/-- The first row on the screen: the old one, moved as little as it takes to show the cursor on one
of `height` lines. -/
def scroll (offset cursor count height : Nat) : Nat :=
  let offset := min offset (count - 1)
  if height = 0 then cursor
  else if cursor < offset then cursor
  else if offset + height ≤ cursor then cursor + 1 - height
  else offset

/-- How many lines are left for rows in a table's area. -/
def rowLines (area : Rect) : Nat := area.inner.height - 1

/-- The first row on the screen when the table is drawn in an area. An area without an inside does
not scroll. -/
def offset (v : Viewer) (area : Rect) : Nat :=
  match cursor v with
  | none => 0
  | some i =>
    if area.inner.isEmpty then v.tableOffset
    else scroll v.tableOffset i v.visibleRows.length (rowLines area)

/-- The rows on the screen: the line of the screen, the place among the visible rows and the row. -/
def shown (v : Viewer) (area : Rect) : List (Nat × Nat × TableRow) :=
  let first := offset v area
  ((v.visibleRows.drop first).take (rowLines area)).zipIdx.map fun (row, i) =>
    (area.inner.y + 1 + i, first + i, row)

/-! ### Painting -/

/-- The mark in front of the row under the cursor. -/
def mark : String := "▶ "

/-- How many columns are kept for the mark. -/
def markWidth (v : Viewer) : Nat := if (cursor v).isSome then 2 else 0

/-- The cells of a line, each cut at the edge of its column; only a text's first line is shown. -/
def cells (v : Viewer) (inner : Rect) (y : Nat) (texts : List String) : List Stroke :=
  let room := min (markWidth v) inner.width
  ((Layout.columns (inner.width - room)).zip texts).flatMap fun ((x, width), text) =>
    Lettering.label { x := inner.x + room + x, y, width, height := 1 }
      [{ text := (Text.lines text).headD "" }]

/-- The style of a row. -/
def rowStyle (v : Viewer) (row : TableRow) : Style :=
  if v.view.highlight = some row.id then .ink v.theme.highlight else .plain

/-- A row on its line. -/
def rowStrokes (v : Viewer) (area : Rect) (y i : Nat) (row : TableRow) : List Stroke :=
  let inner := area.inner
  let line : Rect := { inner with y, height := 1 }
  .restyle line (rowStyle v row) ::
    (if cursor v = some i then Lettering.label { line with width := markWidth v } [{ text := mark }]
     else []) ++
    cells v inner y (texts v.view area.width row)

/-- The style of the row under the cursor, over the whole of its line. -/
def cursorStrokes (v : Viewer) (area : Rect) : List Stroke :=
  (shown v area).filterMap fun (y, i, _) =>
    if cursor v = some i then some (.restyle { area.inner with y, height := 1 } v.theme.selected)
    else none

/-- The table. -/
def strokes (v : Viewer) (area : Rect) : List Stroke :=
  let inner := area.inner
  Panel.strokes area (title v) (.ink v.theme.border) ++
    if inner.isEmpty then []
    else
      .restyle { inner with height := 1 } v.theme.header ::
        cells v inner inner.y (headings v.sort) ++
        (shown v area).flatMap (fun (y, i, row) => rowStrokes v area y i row) ++
        cursorStrokes v area

/-- The viewer after its table has been drawn in an area. -/
def drawn (v : Viewer) (area : Rect) : Viewer :=
  { v with tableArea := area, tableCursor := cursor v, tableOffset := offset v area }

end ProfileBrowser.TablePanel
