import ProfileBrowser.Flame.Svg
import ProfileBrowser.Screen.Rect
import ProfileBrowser.Screen.Theme
import ProfileBrowser.Text.Lines
import ProfileBrowser.View.Exchange
import ProfileBrowser.View.Sort
import ProfileBrowser.Word
/-!
# The viewer

What the terminal adds to the controller: the cursor, scrolling, overlays, the input of a filter and
messages that vanish after a while. Everything about the profile itself stays in the controller.

Writing a file is left to the outside: an operation that wants one written hands out a `Saving`, and
`Viewer.saved` takes in how it went.
-/

namespace ProfileBrowser

/-! ### Files to write -/

/-- What a file holds. -/
inductive SavingKind where
  /-- An image of the flame graph. -/
  | image
  /-- The context and the displayed data. -/
  | state
deriving DecidableEq, Repr, Inhabited

/-- A file that is to be written. -/
structure Saving where
  kind : SavingKind
  content : String
deriving DecidableEq, Repr, Inhabited

namespace Saving

/-- The file's name; an image has the time in it. -/
def fileName (s : Saving) (stamp : String) : String :=
  match s.kind with
  | .image => "flamegraph-" ++ stamp ++ ".svg"
  | .state => "profview_export.json"

/-- A name inside a directory. -/
def inside (directory name : String) : String :=
  if directory.isEmpty || directory.toList.getLast? = some '/' then directory ++ name
  else directory ++ "/" ++ name

/-- What is said when a file has been written, or has not because of a fault. -/
def report (s : Saving) (path : String) (failure : Option FileFault) : String :=
  match s.kind, failure with
  | .image, none => "Saved flame graph to " ++ path
  | .image, some _ => "Download failed: writing " ++ path
  | .state, none => "Exported to " ++ path
  | .state, some fault => "Export failed: " ++ fault.message

end Saving

/-! ### State -/

/-- A message in the status line. -/
structure Notice where
  text : String
  /-- How many milliseconds it has been there. -/
  age : Nat := 0
deriving DecidableEq, Repr, Inhabited

/-- The viewer. -/
structure Viewer where
  exchange : Exchange
  /-- The backend's name on the screen. -/
  source : String
  theme : Theme := .dark
  running : Bool := true
  helpShown : Bool := false
  /-- The cursor among the visible rows. -/
  selectedRow : Nat := 0
  /-- The first line of the call graph on the screen. -/
  topoScroll : Nat := 0
  /-- The row that the table marked when it was drawn last. -/
  tableCursor : Option Nat := none
  /-- The first row of the table on the screen. -/
  tableOffset : Nat := 0
  /-- Where the table was drawn; empty when it is not on the screen. -/
  tableArea : Rect := {}
  sort : TableSort := {}
  /-- Whether keys go into the filter text. -/
  filterActive : Bool := false
  /-- The window that a reload moves up to the current time; without one the window is fixed. -/
  lookback : Option Duration := none
  exportDirectory : String := "."
  notice : Option Notice := none
deriving Inhabited

namespace Viewer

/-- How long a message stays. -/
def noticeMillis : Nat := 3000

/-- The controller. -/
def controller (v : Viewer) : Controller := v.exchange.controller

/-- What the renderers read. -/
def view (v : Viewer) : ViewState := v.controller.view

/-- The current mode. -/
def mode (v : Viewer) : Mode := v.view.mode

/-- Passes an event on to the controller. -/
def send (v : Viewer) (event : Exchange.Event) : Viewer :=
  { v with exchange := v.exchange.handle event }

/-! ### Messages -/

/-- Shows a message. -/
def notify (v : Viewer) (text : String) : Viewer := { v with notice := some { text } }

/-- Lets time pass for the message. -/
def ageNotice (v : Viewer) (millis : Nat) : Viewer :=
  { v with notice := v.notice.map fun n => { n with age := n.age + millis } }

/-- The message, until its time is over. -/
def noticeText (v : Viewer) : Option String :=
  v.notice.bind fun n => if n.age < noticeMillis then some n.text else none

/-! ### Rows and the cursor -/

/-- The rows that the filter lets through, in the backend's order. -/
def visibleRows (v : Viewer) : List TableRow := Filter.visible v.view.filter v.view.table

/-- The row under the cursor. -/
def selectedTableRow (v : Viewer) : Option TableRow := v.visibleRows[v.selectedRow]?

/-- Highlights the row under the cursor. -/
def syncHighlight (v : Viewer) : Viewer :=
  v.send (.highlight (v.selectedTableRow.map (·.id)))

/-- Puts the cursor on a row. -/
def moveTo (v : Viewer) (row : Nat) : Viewer := { v with selectedRow := row }.syncHighlight

/-- How many lines of the call graph can be scrolled over: a word of 16 bits. -/
def topoLineCount (v : Viewer) : Nat := min (Text.lines v.view.topology).length Word.greatestShort

/-- Moves down by a number of rows, or scrolls the call graph. -/
def selectNext (v : Viewer) (n : Nat) : Viewer :=
  if v.mode = .topo then
    { v with topoScroll := min (v.topoScroll + n % Word.shortCount) (v.topoLineCount - 1) }
  else v.moveTo (min (v.selectedRow + n) (v.visibleRows.length - 1))

/-- Moves up by a number of rows, or scrolls the call graph. -/
def selectPrev (v : Viewer) (n : Nat) : Viewer :=
  if v.mode = .topo then { v with topoScroll := v.topoScroll - n % Word.shortCount }
  else v.moveTo (v.selectedRow - n)

/-- Jumps to the first row or line. -/
def selectFirst (v : Viewer) : Viewer :=
  if v.mode = .topo then { v with topoScroll := 0 } else v.moveTo 0

/-- Jumps to the last row or line. -/
def selectLast (v : Viewer) : Viewer :=
  if v.mode = .topo then { v with topoScroll := v.topoLineCount - 1 }
  else v.moveTo (v.visibleRows.length - 1)

/-- Puts the cursor on a visible row. -/
def selectRow (v : Viewer) (row : Nat) : Viewer :=
  if row < v.visibleRows.length then v.moveTo row else v

/-- The lines of a table's area above its rows: the border and the heading. -/
def linesAboveRows : Nat := 2

/-- The visible row that the table shows at a place of the screen. -/
def rowAt (v : Viewer) (x y : Nat) : Option Nat :=
  let area := v.tableArea
  let first := area.y + linesAboveRows
  if !area.contains x y || y < first || area.bottom - 1 ≤ y then none
  else
    let row := v.tableOffset + (y - first)
    if row < v.visibleRows.length then some row else none

/-! ### Modes and fetching -/

/-- Switches the mode and shows the call graph from its start. -/
def setMode (v : Viewer) (mode : Mode) : Viewer := { v.send (.setMode mode) with topoScroll := 0 }

/-- Takes in what has arrived; also whether anything changed. The cursor stays on a visible row. -/
def tick (v : Viewer) : Viewer × Bool :=
  let (exchange, changed) := v.exchange.poll
  let v := { v with exchange }
  if changed && v.visibleRows.length ≤ v.selectedRow then
    ({ v with selectedRow := v.visibleRows.length - 1 }, changed)
  else (v, changed)

/-- Fetches again; a look-back window is moved up to the given time. -/
def reload (v : Viewer) (wall : Int) : Viewer :=
  match v.lookback with
  | some window => v.send (.setRange (.last wall window))
  | none => v.send .refresh

/-- Fetches the rows in the viewer's order. -/
def applySort (v : Viewer) : Viewer :=
  { v with selectedRow := 0 }.send (.sortBy v.sort.directive)

/-- Sorts by the next column. -/
def cycleSort (v : Viewer) : Viewer :=
  { v with sort := { v.sort with column := v.sort.column.next } }.applySort

/-- Sorts in the other direction. -/
def toggleSortDirection (v : Viewer) : Viewer :=
  { v with sort := { v.sort with ascending := !v.sort.ascending } }.applySort

/-! ### The filter -/

/-- Replaces the filter text; the cursor goes to the first row. -/
def setFilter (v : Viewer) (filter : String) : Viewer :=
  { v.send (.setFilter filter) with selectedRow := 0 }

/-- Empties the filter and stops its input. -/
def clearFilter (v : Viewer) : Viewer := { v.setFilter "" with filterActive := false }

/-- Appends a character to the filter. -/
def pushFilter (v : Viewer) (c : Char) : Viewer := v.setFilter (v.view.filter.push c)

/-- Removes the last character of the filter. -/
def popFilter (v : Viewer) : Viewer :=
  v.setFilter (String.ofList v.view.filter.toList.dropLast)

/-! ### Files -/

/-- Asks for the flame graph in a format, or says why there is nothing to write. -/
def download (v : Viewer) (format : Controller.DownloadFormat) : Viewer × Option Saving :=
  match v.controller.image? format, format with
  | some image, _ =>
    (v, some ⟨.image, Flame.Svg.render image.root image.unit image.keywords v.theme.isDark⟩)
  | none, .image => (v.notify "No flame graph to download", none)
  | none, .pprof => (v.notify "pprof download is not supported yet", none)

/-- Asks for the context and the displayed data to be written. -/
def exportState (v : Viewer) : Saving := ⟨.state, v.controller.stateText v.source⟩

/-- Where a file goes. -/
def pathOf (v : Viewer) (s : Saving) (stamp : String) : String :=
  Saving.inside v.exportDirectory (s.fileName stamp)

/-- Takes in how the writing of a file went. -/
def saved (v : Viewer) (s : Saving) (stamp : String) (failure : Option FileFault) :
    Viewer :=
  v.notify (s.report (v.pathOf s stamp) failure)

end Viewer

end ProfileBrowser
