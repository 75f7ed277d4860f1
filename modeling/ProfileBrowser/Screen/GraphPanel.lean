import ProfileBrowser.Screen.Panel
import ProfileBrowser.View.Viewer
/-!
# The call graph

The text of the call graph, from the line on to which it is scrolled.
-/

namespace ProfileBrowser.GraphPanel

/-- The title; it tells the place in the text, if there is one. -/
def title (scroll lines : Nat) : String :=
  if lines = 0 then " Call graph "
  else " Call graph [" ++ toString (min (scroll + 1) lines) ++ "/" ++ toString lines ++ "] "

/-- The call graph. -/
def strokes (v : Viewer) (area : Rect) : List Stroke :=
  let lines := Lettering.textLines v.view.topology {}
  Panel.strokes area (title v.topoScroll lines.length) (.ink v.theme.border) ++
    Lettering.paragraph area.inner (lines.drop v.topoScroll) false

end ProfileBrowser.GraphPanel
