import ProfileBrowser.Screen.Layout
import ProfileBrowser.Screen.Panel
import ProfileBrowser.View.Viewer
/-!
# Overlays

What is painted over the content: the mark of loading, the word that there is no data, and the help.
-/

namespace ProfileBrowser.Overlays

/-! ### Loading -/

/-- The mark of loading. -/
def loadingText : String := " Loading… "

/-- The mark of loading over the content. -/
def loading (v : Viewer) (content : Rect) : List Stroke :=
  Lettering.text (Layout.loading content loadingText.length)
    { Style.bold with foreground := some v.theme.highlight } loadingText

/-! ### No data -/

/-- What is said when there is nothing to show. -/
def noDataLines (v : Viewer) : List (List Span) :=
  [[⟨"No profiling data", .bold⟩],
    [⟨"Try a wider time range or other parameters (r to reload)", .ink v.theme.muted⟩]]

/-- A bordered box over an area, with lines inside. -/
def box (area : Rect) (title : String) (border : Colour) (lines : List (List Span))
    (centred : Bool) : List Stroke :=
  .clear area :: Panel.strokes area title (.ink border) ++
    Lettering.paragraph area.inner lines centred

/-- The word that there is no data, over the content. -/
def noData (v : Viewer) (content : Rect) : List Stroke :=
  box (Layout.noData content) "" v.theme.muted (noDataLines v) true

/-! ### Help -/

/-- A line of the help without a style. -/
def helpLine (s : String) : List Span := [⟨s, {}⟩]

/-- The heading of a part of the help. -/
def helpHeading (s : String) : List Span := [⟨s, .bold⟩]

/-- The lines of the help. -/
def helpLines (v : Viewer) : List (List Span) :=
  [[⟨"Keyboard Shortcuts", v.theme.header⟩],
    helpLine "",
    helpHeading " Modes",
    helpLine "  1-4         Combine/Table/Flame/Topo",
    helpLine "  Tab ←/→     Cycle modes",
    helpLine "",
    helpHeading " Table & Topo",
    helpLine "  ↑/↓ j/k     Select row / scroll",
    helpLine "  PgUp/PgDn   Jump 10 rows",
    helpLine "  Home/End    Jump to first/last",
    helpLine "  s           Cycle sort column",
    helpLine "  S           Toggle sort direction",
    helpLine "",
    helpHeading " Flame graph",
    helpLine "  /           Filter by keyword",
    helpLine "  c           Clear filter",
    helpLine "  t           Toggle text direction",
    helpLine "  d           Download SVG",
    helpLine "  p           Download pprof",
    helpLine "",
    helpHeading " General",
    helpLine "  r           Reload",
    helpLine "  e           Export to JSON",
    helpLine "  q           Quit",
    helpLine "",
    [⟨"Press any key to close", .dim⟩]]

/-- The help over the whole screen. -/
def help (v : Viewer) (screen : Rect) : List Stroke :=
  box (Layout.help screen) " Help " v.theme.highlight (helpLines v) false

end ProfileBrowser.Overlays
