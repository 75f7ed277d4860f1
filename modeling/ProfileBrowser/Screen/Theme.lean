import ProfileBrowser.Flame.Colour
import ProfileBrowser.Screen.Style
/-!
# Themes

The colours of the screen, for a dark and for a light terminal.
-/

namespace ProfileBrowser

/-- What the colours are made for. -/
inductive Theme where
  | dark | light
deriving DecidableEq, Repr, Inhabited

namespace Theme

/-- Whether the terminal is dark. -/
def isDark (t : Theme) : Bool := t = dark

/-- The accent of active things. -/
def highlight : Theme → Colour
  | dark => .cyan
  | light => .blue

/-- Borders. -/
def border : Theme → Colour
  | dark => .gray
  | light => .darkGray

/-- What steps back: overlays without data, and frames that a filter does not match. -/
def muted : Theme → Colour
  | dark => .darkGray
  | light => .gray

/-- Failures, and frames that a filter matches. -/
def searchMatch : Theme → Colour
  | _ => .magenta

/-- The heading of the table and of the help. -/
def header (t : Theme) : Style := { Style.bold with foreground := some t.highlight }

/-- The row under the cursor. -/
def selected : Theme → Style
  | dark => { Style.bold with background := some .darkGray }
  | light => { Style.bold with background := some .lightBlue }

/-- The tab of the current mode. -/
def activeTab (t : Theme) : Style := { Style.bold with foreground := some t.highlight }

/-- The other tabs. -/
def inactiveTab (t : Theme) : Style := .ink t.border

/-- The colours of frames. -/
def palette : Theme → Colour × Colour × Colour × Colour
  | dark => (.rgb 244 67 54, .rgb 255 167 38, .rgb 255 112 67, .rgb 251 192 45)
  | light => (.rgb 230 57 70, .rgb 244 132 95, .rgb 238 108 77, .rgb 233 196 106)

/-- The colour of a function's frame. -/
def frame (t : Theme) (name : String) : Colour := Flame.pick t.palette name

end Theme

end ProfileBrowser
