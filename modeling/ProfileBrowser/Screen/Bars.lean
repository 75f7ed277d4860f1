import ProfileBrowser.Screen.Layout
import ProfileBrowser.Screen.Lettering
import ProfileBrowser.View.Viewer
/-!
# Header, tabs and status line

The three lines around the content: what is looked at, the modes, and what can be done or has
happened.
-/

namespace ProfileBrowser.Bars

/-! ### Header -/

/-- The length of the window. -/
def windowText (v : Viewer) : String :=
  match v.lookback with
  | some window => "last " ++ window.label
  | none => v.controller.context.range.duration.label

/-- The mark in the corner: a ring while something is loaded, else a dot, in the colour of failures
after one. -/
def indicator (v : Viewer) : Span :=
  let mark := if v.view.isLoading then "◌" else "●"
  let failed := !v.view.isLoading && v.controller.lastFailure.isSome
  { text := " " ++ mark ++ " ",
    style := .ink (if failed then v.theme.searchMatch else v.theme.highlight) }

/-- The pieces of the header. -/
def headerSpans (v : Viewer) : List Span :=
  [indicator v, ⟨"PROFVIEW ", .bold⟩, ⟨"│ ", {}⟩, ⟨v.controller.context.params.label, .bold⟩,
    ⟨" │ ", {}⟩, ⟨windowText v, {}⟩, ⟨" │ unit: ", {}⟩,
    ⟨if v.view.unit.isEmpty then "-" else v.view.unit, {}⟩, ⟨" │ ", {}⟩, ⟨v.source, .dim⟩]

/-- The header. -/
def header (v : Viewer) (area : Rect) : List Stroke :=
  Lettering.paragraph area [headerSpans v] false

/-! ### Tabs -/

/-- A mode's tab with a blank on both sides of its text, and a bar behind every tab but the last. -/
def tabStrokes (v : Viewer) (area : Rect) : Nat → List Mode → List Stroke
  | _, [] => []
  | x, m :: rest =>
    let first := x + 1
    let stop := first + m.tabText.length
    let piece (x : Nat) (s : String) : List Stroke :=
      (s.toList.zipIdx.filter fun (_, i) => x + i < area.right).map fun (c, i) =>
        .put (x + i) area.y c.toString {}
    let mark : List Stroke :=
      if m = v.mode then
        [.restyle { x := first, y := area.y, width := min stop area.right - first, height := 1 }
          v.theme.activeTab]
      else []
    piece x " " ++ piece first m.tabText ++ mark ++ piece stop " " ++
      (if rest.isEmpty then [] else piece (stop + 1) "|") ++ tabStrokes v area (stop + 2) rest

/-- The tabs. -/
def tabs (v : Viewer) (area : Rect) : List Stroke :=
  .restyle area v.theme.inactiveTab ::
    if area.isEmpty then [] else tabStrokes v area area.x Mode.all

/-! ### Status line -/

/-- What can be done in a mode. -/
def controls : Mode → String
  | .combine | .table => "↑↓:select /:filter s:sort S:reverse t:text d:svg Tab:mode ?:help q:quit"
  | .flame => "/:filter t:text d:svg p:pprof Tab:mode ?:help q:quit"
  | .topo => "↑↓:scroll r:reload Tab:mode ?:help q:quit"

/-- What the status line says while no message is shown. -/
def statusText (v : Viewer) : String :=
  if v.filterActive then " Filter: " ++ v.view.filter ++ "_ | Enter:apply Esc:cancel"
  else
    match v.controller.lastFailure with
    | some e => " Error: " ++ e.message ++ " | r:retry | " ++ controls v.mode
    | none => " " ++ controls v.mode

/-- The status line. -/
def status (v : Viewer) (area : Rect) : List Stroke :=
  match v.noticeText with
  | some text => Lettering.text area (.ink v.theme.highlight) (" " ++ text ++ " ")
  | none => Lettering.text area .dim (statusText v)

end ProfileBrowser.Bars
