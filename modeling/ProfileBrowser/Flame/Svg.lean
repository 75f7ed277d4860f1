import ProfileBrowser.Flame.Colour
import ProfileBrowser.Flame.Layout
import ProfileBrowser.Profile.Amount
import ProfileBrowser.Profile.Filter
import ProfileBrowser.Text.Markup
import ProfileBrowser.View.Label
import ProfileBrowser.Word
/-!
# Flame graphs as images

A flame graph as a standalone SVG document: a background, a heading, and for every frame of the
layout a rectangle with its tooltip and, where there is room, a label. Names enter the document only
as text with its markup characters written out.
-/

namespace ProfileBrowser.Flame.Svg

open Binary64 (ofNat fixed)

variable (weigh : FlameNode → Nat)

/-! ### Measures -/

/-- The width of the image. -/
def imageWidth : Nat := 1200

/-- The height of a row. -/
def rowHeight : Nat := 18

/-- The height of the heading. -/
def headingHeight : Nat := 28

/-- The height of an image with a number of rows. -/
def imageHeight (rows : Nat) : Nat := headingHeight + rows * rowHeight + 4

/-- How far below the top of its row a label stands. -/
def baseline : Binary64 := ofNat rowHeight * Binary64.ofDecimal false 7 (-1)

/-- Rectangles of more than this width carry a label. -/
def leastLabelled : Nat := 30

/-- The width of a letter. -/
def letterWidth : Nat := 7

/-! ### Colours -/

/-- The background and the heading's colour. -/
def groundColours (dark : Bool) : String × String :=
  if dark then ("#1a1a2e", "#e0e0e0") else ("#ffffff", "#1a1a2e")

/-- The colour of a label. -/
def labelColour : String := "#1a1a2e"

/-- The colours of frames while nothing is searched for. -/
def palette (dark : Bool) : String × String × String × String :=
  if dark then ("#f44336", "#ffa726", "#ff7043", "#fbc02d")
  else ("#e63946", "#f4845f", "#ee6c4d", "#e9c46a")

/-- The colour of a frame that matches the search. -/
def matchColour : String := "#ab47bc"

/-- The colour of a frame that does not. -/
def dimColour (dark : Bool) : String := if dark then "#424242" else "#dee2e6"

/-- The colour of a frame. -/
def fill (name : String) (keywords : List String) (dark : Bool) : String :=
  if keywords.isEmpty then pick (palette dark) name
  else if Filter.matchesAny name keywords then matchColour
  else dimColour dark

/-! ### Elements -/

/-- An attribute. -/
def attr (name value : String) : String := " " ++ name ++ "=\"" ++ value ++ "\""

/-- The start tag of the document. -/
def documentStart (height : Nat) : String :=
  "<svg" ++ attr "xmlns" "http://www.w3.org/2000/svg" ++
    attr "viewBox" ("0 0 " ++ toString imageWidth ++ " " ++ toString height) ++
    attr "width" (toString imageWidth) ++ attr "height" (toString height) ++
    attr "style" "font-family:system-ui,-apple-system,sans-serif;font-size:11px" ++ ">"

/-- The background. -/
def background (height : Nat) (colour : String) : String :=
  "<rect" ++ attr "width" (toString imageWidth) ++ attr "height" (toString height) ++
    attr "fill" colour ++ "/>"

/-- The heading: the root's name and its amount. -/
def heading (root : FlameNode) (unit colour : String) : String :=
  "<text" ++ attr "x" "8" ++ attr "y" "18" ++ attr "fill" colour ++
    attr "style" "font-size:13px" ++ ">" ++ Text.markup root.name ++ " (" ++
    Text.markup (Amount.shown (weigh root) unit) ++ ")</text>"

/-- What a frame's tooltip says: its name, its amount and its share in the whole. -/
def tooltip (node : FlameNode) (unit : String) (total : Nat) : String :=
  node.name ++ " " ++ Amount.shown (weigh node) unit ++ " (" ++ Amount.share (weigh node) total ++ ")"

/-- A frame's rectangle. -/
def rectangle (x y w : Binary64) (colour tip : String) : String :=
  "<rect" ++ attr "x" (fixed 2 x) ++ attr "y" (fixed 2 y) ++ attr "width" (fixed 2 w) ++
    attr "height" (fixed 2 (ofNat (rowHeight - 1))) ++ attr "fill" colour ++
    attr "rx" "1" ++ "><title>" ++ Text.markup tip ++ "</title></rect>"

/-- A frame's label. -/
def label (x y : Binary64) (text : String) : String :=
  "<text" ++ attr "x" (fixed 2 x) ++ attr "y" (fixed 2 y) ++
    attr "fill" labelColour ++ attr "style" "pointer-events:none" ++ ">" ++
    Text.markup text ++ "</text>"

/-- The elements of a frame. -/
def element (unit : String) (keywords : List String) (dark : Bool) (total : Nat)
    (f : Frame Binary64) : String :=
  let x := f.start * ofNat imageWidth
  let y := ofNat (headingHeight + f.depth * rowHeight)
  let w := f.width * ofNat imageWidth
  let box := rectangle x y w (fill f.node.name keywords dark) (tooltip weigh f.node unit total)
  if Binary64.lt (ofNat leastLabelled) w then
    let room := Binary64.truncateTo Word.greatest (w / ofNat letterWidth)
    box ++ label (x + ofNat 3) (y + baseline) (Direction.ltr.truncate f.node.name room)
  else box

/-- The document of a tree whose nodes are weighed. -/
def renderBy (root : FlameNode) (unit : String) (keywords : List String) (dark : Bool) : String :=
  let height := imageHeight root.depth
  let (ground, ink) := groundColours dark
  documentStart height ++ background height ground ++ heading weigh root unit ink ++
    String.join ((layoutBy weigh root).map (element weigh unit keywords dark (weigh root))) ++ "</svg>"

/-- The document. -/
def render (root : FlameNode) (unit : String) (keywords : List String) (dark : Bool) : String :=
  renderBy FlameNode.weight root unit keywords dark

end ProfileBrowser.Flame.Svg
