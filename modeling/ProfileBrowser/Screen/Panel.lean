import ProfileBrowser.Screen.Lettering
/-!
# Panels

An area with a rounded border and a title in its upper edge. In an area of one line or one column
the corners on the upper left win.
-/

namespace ProfileBrowser.Panel

/-- The border of an area. -/
def border (area : Rect) (style : Style) : List Stroke :=
  let right := area.right - 1
  let bottom := area.bottom - 1
  area.lines.map (Stroke.put area.x · "│" style) ++
    area.columns.map (Stroke.put · area.y "─" style) ++
    area.lines.map (Stroke.put right · "│" style) ++
    area.columns.map (Stroke.put · bottom "─" style) ++
    [.put right bottom "╯" style, .put right area.y "╮" style, .put area.x bottom "╰" style,
      .put area.x area.y "╭" style]

/-- The part of the upper edge that a title fills, which is no wider than the title. -/
def titleArea (area : Rect) (title : List Span) : Rect :=
  let width := (area.width - 2).min (Lettering.labelColumns title)
  { area with x := area.x + 1, width, height := 1 }

/-- A panel without its content. The lines of the title stand behind each other. -/
def strokes (area : Rect) (title : String) (style : Style) : List Stroke :=
  if area.isEmpty then []
  else
    let title : List Span := (Text.lines title).map fun line => { text := line }
    border area style ++ Lettering.label (titleArea area title) title

end ProfileBrowser.Panel
