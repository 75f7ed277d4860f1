import ProfileBrowser.Screen.Bars
import ProfileBrowser.Screen.FlamePanel
import ProfileBrowser.Screen.GraphPanel
import ProfileBrowser.Screen.Overlays
import ProfileBrowser.Screen.TablePanel
/-!
# Drawing a frame

The whole screen: the lines around the content, the panels of the mode, and the overlays. Drawing
changes of the viewer only what it remembers of the table for clicks and for scrolling.
-/

namespace ProfileBrowser.Viewer

/-- Where the table is drawn on a screen, if the mode shows it. -/
def tablePlace? (v : Viewer) (screen : Rect) : Option Rect :=
  match v.mode with
  | .combine => some (Layout.leftPanel (Layout.content screen))
  | .table => some (Layout.content screen)
  | .flame | .topo => none

/-- The panels of the mode. -/
def contentStrokes (v : Viewer) (area : Rect) : List Stroke :=
  match v.mode with
  | .combine =>
    TablePanel.strokes v (Layout.leftPanel area) ++ FlamePanel.strokes v (Layout.rightPanel area)
  | .table => TablePanel.strokes v area
  | .flame => FlamePanel.strokes v area
  | .topo => GraphPanel.strokes v area

/-- The overlays over the content and over the screen. -/
def overlayStrokes (v : Viewer) (screen : Rect) : List Stroke :=
  let content := Layout.content screen
  (if v.view.empty && !v.view.isLoading then Overlays.noData v content else []) ++
    (if v.view.isLoading then Overlays.loading v content else []) ++
    (if v.helpShown then Overlays.help v screen else [])

/-- Everything on the screen. -/
def strokes (v : Viewer) (screen : Rect) : List Stroke :=
  Bars.header v (Layout.header screen) ++ Bars.tabs v (Layout.tabs screen) ++
    contentStrokes v (Layout.content screen) ++ Bars.status v (Layout.status screen) ++
    overlayStrokes v screen

/-- The viewer after a frame has been drawn. Only a table of this frame can be clicked on. -/
def drawn (v : Viewer) (screen : Rect) : Viewer :=
  match v.tablePlace? screen with
  | some area => TablePanel.drawn v area
  | none => { v with tableArea := {} }

/-- Draws a frame of a size; also the viewer after it. -/
def draw (v : Viewer) (width height : Nat) : Viewer × Canvas :=
  let canvas := Canvas.blank width height
  (v.drawn canvas.area, canvas.paint (v.strokes canvas.area))

end ProfileBrowser.Viewer
