import ProfileBrowser.Screen.Canvas
import ProfileBrowser.Text.Columns
import ProfileBrowser.Text.Grapheme
import ProfileBrowser.Text.Lines
/-!
# Lettering

How text gets onto cells, one grapheme cluster at a time. There are two ways. A *label* stands on
one line: its clusters follow each other until one does not fit, and marks without a width join the
cell before them. A *paragraph* has many lines: what is wider than the whole area is passed over,
what does not fit ends the line, and marks without a width are left out.
-/

namespace ProfileBrowser

/-- A piece of text with its style. -/
structure Span where
  text : String
  style : Style := {}
deriving DecidableEq, Repr, Inhabited

namespace Lettering

/-- The clusters of a text that are painted: all but the line feed. -/
def clusters (s : String) : List (List Char) :=
  (Text.clusters s.toList).filter fun g => g != ['\n']

/-! ### Labels -/

/-- The clusters of a label from column `x` on, left of column `right`. The label starts at `left`,
and `first` says that nothing of it has been painted. -/
def clusterStrokes (style : Style) (left right y : Nat) :
    Nat → Bool → List (List Char) → List Stroke
  | _, _, [] => []
  | x, first, g :: rest =>
    let w := Text.columns g
    if right < x + w then []
    else
      let symbol := String.ofList g
      let stroke :=
        if first then Stroke.put x y symbol style
        else if x = left then .join x y symbol style
        else if w = 0 then .join (x - 1) y symbol style
        else .put x y symbol style
      let hidden := (List.range (w - 1)).map fun i => Stroke.erase (x + 1 + i) y
      stroke :: hidden ++ clusterStrokes style left right y (x + w) false rest

/-- How many columns a label of several pieces is given. -/
def labelColumns (spans : List Span) : Nat :=
  (spans.map (Text.textColumns ·.text)).foldl (· + ·) 0

/-- A label of several pieces on the line `y`, from column `x` on and left of column `right`. -/
def labelStrokes (y right : Nat) : Nat → List Span → List Stroke
  | _, [] => []
  | x, span :: rest =>
    let w := Text.textColumns span.text
    if w = 0 then labelStrokes y right x rest
    else if right ≤ x then []
    else clusterStrokes span.style x right y x true (clusters span.text) ++
      labelStrokes y right (x + w) rest

/-- A label in an area, of which it needs one line. -/
def label (area : Rect) (spans : List Span) : List Stroke :=
  if area.isEmpty then [] else labelStrokes area.y area.right area.x spans

/-! ### Paragraphs -/

/-- The part of a line that fits into a number of columns, of which `used` are taken. -/
def fitted (limit : Nat) : Nat → List (List Char × Style) → List (List Char × Style)
  | _, [] => []
  | used, (g, style) :: rest =>
    let w := Text.columns g
    if limit < w then fitted limit used rest
    else if limit < used + w then []
    else (g, style) :: fitted limit (used + w) rest

/-- The clusters of a fitted line from column `x` on. -/
def lineStrokes (y : Nat) : Nat → List (List Char × Style) → List Stroke
  | _, [] => []
  | x, (g, style) :: rest =>
    let w := Text.columns g
    if w = 0 then lineStrokes y x rest
    else .put x y (String.ofList g) style :: lineStrokes y (x + w) rest

/-- The clusters of a line with their styles. -/
def lineClusters (line : List Span) : List (List Char × Style) :=
  line.flatMap fun span => (clusters span.text).map fun g => (g, span.style)

/-- How many columns fitted clusters fill. -/
def lineColumns (line : List (List Char × Style)) : Nat :=
  (line.map (Text.columns ·.1)).foldl (· + ·) 0

/-- A paragraph in an area; each line starts at the left, or stands in the middle. -/
def paragraph (area : Rect) (lines : List (List Span)) (centred : Bool) : List Stroke :=
  if area.isEmpty then []
  else
    (lines.take area.height).zipIdx.flatMap fun (line, i) =>
      let line := fitted area.width 0 (lineClusters line)
      let indent := if centred then area.width / 2 - lineColumns line / 2 else 0
      lineStrokes (area.y + i) (area.x + indent) line

/-- The lines of a text in one style. -/
def textLines (s : String) (style : Style) : List (List Span) :=
  (Text.lines s).map fun line => [⟨line, style⟩]

/-- A text in an area, with a style over the whole of the area. -/
def text (area : Rect) (style : Style) (s : String) : List Stroke :=
  .restyle area style :: paragraph area (textLines s {}) false

end Lettering

end ProfileBrowser
