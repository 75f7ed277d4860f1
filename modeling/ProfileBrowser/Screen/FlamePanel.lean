import ProfileBrowser.Screen.Panel
import ProfileBrowser.View.Viewer
import ProfileBrowser.Word
/-!
# The flame graph on the screen

Frames as bars of cells, the root on top, with a line below them that describes the highlighted
frame or the root. Bars are painted one character to a cell, whatever the character's own width.
-/

namespace ProfileBrowser.FlamePanel

open Flame (Frame)

/-- The title; it names the keyword that is searched for. -/
def title (keywords : List String) : String :=
  match keywords with
  | keyword :: _ => " Flame graph [/" ++ keyword ++ "] "
  | [] => " Flame graph "

/-! ### Bars -/

/-- The column nearest to a fraction of a width, a word of 16 bits. -/
def column (fraction : Binary64) (width : Nat) : Nat :=
  Binary64.roundTo Word.greatestShort (fraction * Binary64.ofNat width)

/-- The columns of a frame in a panel of a width, as a start and a positive length, if the frame
starts inside. -/
def extent (start size : Binary64) (width : Nat) : Option (Nat × Nat) :=
  let first := column start width
  if width ≤ first then none
  else some (first, min (max (column (start + size) width - first) 1) (width - first))

/-- What a frame is filled with: by its name, or while something is searched for by whether it
matches. -/
def fill (theme : Theme) (name : String) (keywords : List String) : Colour :=
  if keywords.isEmpty then theme.frame name
  else if Filter.matchesAny name keywords then theme.searchMatch
  else theme.muted

/-- The style of a frame. -/
def frameStyle (theme : Theme) (keywords : List String) (highlight : Option UInt64)
    (node : FlameNode) : Style :=
  let base : Style :=
    { foreground := some .black, background := some (fill theme node.name keywords) }
  if highlight = some node.id then { base with modifiers := { bold := true, reversed := true } }
  else base

/-- How many lines of a panel's inside frames can fill: all but the last. -/
def graphLines (inner : Rect) : Nat := inner.height - 1

/-- The line of a frame, counted from the root's; it is a word of 16 bits and starts again after the
greatest. -/
def row (f : Frame Binary64) : Nat := f.depth % Word.shortCount

/-- A frame as a bar of cells; nothing if it lies below the graph or to its right. -/
def bar (v : Viewer) (inner : Rect) (f : Frame Binary64) : List Stroke :=
  if graphLines inner ≤ row f then []
  else
    match extent f.start f.width inner.width with
    | none => []
    | some (first, length) =>
      let style := frameStyle v.theme v.controller.filterKeywords v.view.highlight f.node
      (v.view.direction.cellText f.node.name length).zipIdx.map fun (c, i) =>
        .put (inner.x + first + i) (inner.y + row f) c.toString style

/-! ### The line below -/

/-- The frame that is described: the highlighted one if it is in the tree. -/
def focus (root : FlameNode) (highlight : Option UInt64) : FlameNode :=
  (highlight.bind root.find?).getD root

variable (weigh : FlameNode → Nat)

/-- What is said of a frame. -/
def description (root node : FlameNode) (unit : String) : String :=
  " " ++ node.name ++ ": " ++ Amount.shown (weigh node) unit ++ " (" ++
    Amount.share (weigh node) (weigh root) ++ ")"

/-- The line of the description. -/
def detail (v : Viewer) (inner : Rect) (root : FlameNode) : List Stroke :=
  Lettering.text (inner.line (graphLines inner)) .dim
    (v.view.direction.truncate (description weigh root (focus root v.view.highlight) v.view.unit)
      inner.width)

/-! ### The panel -/

/-- What is inside the border. -/
def content (v : Viewer) (inner : Rect) (root : FlameNode) : List Stroke :=
  (Flame.layoutBy weigh root).flatMap (bar v inner) ++ detail weigh v inner root

/-- The flame graph of a tree whose nodes are weighed. -/
def strokesBy (v : Viewer) (area : Rect) : List Stroke :=
  Panel.strokes area (title v.controller.filterKeywords) (.ink v.theme.border) ++
    match v.view.flame with
    | none => []
    | some root => if area.inner.isEmpty then [] else content weigh v area.inner root

/-- The flame graph. -/
def strokes (v : Viewer) (area : Rect) : List Stroke := strokesBy FlameNode.weight v area

end ProfileBrowser.FlamePanel
