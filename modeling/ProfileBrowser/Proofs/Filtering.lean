import ProfileBrowser.Proofs.Drawing
import ProfileBrowser.Proofs.Image
import ProfileBrowser.Proofs.LowerCase
import ProfileBrowser.Proofs.Sessions
/-!
# What a filter lets through

The table goes by the trimmed filter text, the flame graph and its image by the keywords; both say the same
(`Filter.admits_eq`). On the screen and in an image every frame of the layout is drawn (`Viewer.Renders`), and
it is marked as a match exactly if the filter would let a row of its name through
(`Viewer.renderers_agree_on_filter`).

A keyword that stands in a name is found there exactly if its capital sigmas end a word of the name where
they end one of the keyword (`Viewer.keyword_found`): the lower case of a capital sigma depends on its
place, and that of the keyword is made without regard to the name.
-/

namespace ProfileBrowser

/-! ### Keywords and rows -/

namespace Filter

variable {filter name : String}

theorem nameContains_iff {keyword : String} : nameContains name keyword = true ↔
    Text.lower keyword.toList <:+: Text.lower name.toList := Text.occursIn_iff

theorem matchesAny_singleton (name keyword : String) :
    matchesAny name [keyword] = nameContains name keyword := by
  rw [matchesAny, List.any_cons, List.any_nil, Bool.or_false]

theorem keywords_of_blank (h : Text.trimChars filter.toList = []) : keywords filter = [] := by
  rw [keywords, Text.trim, h]
  rfl

theorem keywords_of_ne_blank (h : Text.trimChars filter.toList ≠ []) :
    keywords filter = [Text.trim filter] := by
  have htrim : (Text.trim filter).isEmpty = false := by
    rw [← Bool.not_eq_true, String.isEmpty_iff, Text.trim, String.ofList_eq_empty_iff]
    exact h
  rw [keywords, htrim]
  rfl

/-- **The filter text and its keywords say the same of a name.** No text but the blank one has a blank lower
case, so it does not matter which of the two is asked for being blank. -/
theorem admits_eq (filter name : String) :
    admits filter name = if keywords filter = [] then true else matchesAny name (keywords filter) := by
  by_cases h : Text.trimChars filter.toList = []
  · rw [admits, keywords_of_blank h, if_pos rfl, h]
    rfl
  · have hlower : (Text.lower (Text.trimChars filter.toList)).isEmpty = false := by
      rw [← Bool.not_eq_true, List.isEmpty_iff, Text.lower_eq_nil_iff]
      exact h
    rw [admits, keywords_of_ne_blank h, if_neg (List.cons_ne_nil _ _), hlower, Bool.false_or,
      matchesAny_singleton, nameContains, Text.trim, String.toList_ofList]

theorem admits_of_matches (h : matchesAny name [Text.trim filter] = true) : admits filter name = true := by
  rw [admits_eq]
  split_ifs with hkeywords
  · rfl
  · rw [keywords_of_ne_blank fun hblank => hkeywords (keywords_of_blank hblank)]
    exact h

theorem mem_visible {rows : List TableRow} {row : TableRow} :
    row ∈ visible filter rows ↔ row ∈ rows ∧ admits filter row.name = true := List.mem_filter

/-- While there are keywords, a row is let through exactly if its name matches. -/
theorem matches_iff_mem_visible {rows : List TableRow} {row : TableRow} (hrow : row ∈ rows) :
    keywords filter ≠ [] ∧ matchesAny row.name (keywords filter) = true ↔
      keywords filter ≠ [] ∧ row ∈ visible filter rows := by
  refine and_congr_right fun hkeywords => ?_
  rw [mem_visible, admits_eq, if_neg hkeywords]
  exact (and_iff_right hrow).symm

/-- **The rows that are let through**: those that match, or all. -/
theorem visible_eq (filter : String) (rows : List TableRow) :
    visible filter rows = if keywords filter = [] then rows
      else rows.filter fun row => matchesAny row.name (keywords filter) := by
  simp only [visible, admits_eq]
  split_ifs with h
  · exact List.filter_true rows
  · rfl

end Filter

/-! ### Frames that match -/

/-- Of three marks by the keywords, the one of matches is given to what matches if the others differ from
it. -/
theorem Filter.eq_mark_iff {α : Type} {unmarked mark other : α} {name : String} {keywords : List String}
    (hunmarked : unmarked ≠ mark) (hother : other ≠ mark) :
    (if keywords.isEmpty then unmarked else if matchesAny name keywords then mark else other) = mark ↔
      keywords ≠ [] ∧ matchesAny name keywords = true := by
  split_ifs with hnone hmatch
  · exact iff_of_false hunmarked fun h => h.1 (List.isEmpty_iff.mp hnone)
  · exact iff_of_true rfl ⟨fun h => hnone (List.isEmpty_iff.mpr h), hmatch⟩
  · exact iff_of_false hother fun h => hmatch h.2

theorem Theme.frame_ne_searchMatch (theme : Theme) (name : String) :
    theme.frame name ≠ theme.searchMatch := by
  cases theme <;> exact Flame.pick_of_all (· ≠ Colour.magenta) (by decide) name

theorem Theme.muted_ne_searchMatch (theme : Theme) : theme.muted ≠ theme.searchMatch := by
  cases theme <;> decide

theorem Flame.Svg.pick_ne_matchColour (dark : Bool) (name : String) :
    pick (palette dark) name ≠ matchColour := by
  cases dark <;> exact pick_of_all (· ≠ matchColour) (by decide) name

theorem Flame.Svg.dimColour_ne_matchColour (dark : Bool) : dimColour dark ≠ matchColour := by
  cases dark <;> decide

/-- **On the screen a frame has the colour of matches** exactly if it matches. -/
theorem FlamePanel.fill_eq_searchMatch {theme : Theme} {name : String} {keywords : List String} :
    fill theme name keywords = theme.searchMatch ↔
      keywords ≠ [] ∧ Filter.matchesAny name keywords = true :=
  Filter.eq_mark_iff (theme.frame_ne_searchMatch name) theme.muted_ne_searchMatch

/-- **In an image** it has the one of matches there. -/
theorem Flame.Svg.fill_eq_matchColour {name : String} {keywords : List String} {dark : Bool} :
    fill name keywords dark = matchColour ↔ keywords ≠ [] ∧ Filter.matchesAny name keywords = true :=
  Filter.eq_mark_iff (pick_ne_matchColour dark name) (dimColour_ne_matchColour dark)

theorem FlamePanel.background_frameStyle (theme : Theme) (keywords : List String) (highlight : Option UInt64)
    (node : FlameNode) :
    (frameStyle theme keywords highlight node).background = some (fill theme node.name keywords) := by
  rw [frameStyle]
  split_ifs <;> rfl

/-- A frame's rectangle in the image has one fill. -/
theorem Flame.Svg.exists_frameNodes (weigh : FlameNode → Nat) (unit : String) (keywords : List String)
    (dark : Bool) (total : Nat) (f : Frame Binary64) : ∃ attributes inside labels,
      frameNodes weigh unit keywords dark total f = .element "rect" attributes inside :: labels ∧
      ∀ colour, ("fill", colour) ∈ attributes ↔ fill f.node.name keywords dark = colour := by
  refine ⟨_, _, _, rfl, fun colour => ?_⟩
  simp [eq_comm]

namespace Viewer

/-! ### The three renderers -/

theorem download_image {v : Viewer} {root : FlameNode} (h : v.view.flame = some root) :
    (v.download .image).2 = some
      ⟨.image, Flame.Svg.render root v.view.unit v.controller.filterKeywords v.theme.isDark⟩ := by
  have himage : v.controller.image? .image = some ⟨root, v.view.unit, v.controller.filterKeywords⟩ := by
    rw [Controller.image?, show v.controller.view.flame = some root from h]
    rfl
  simp only [download, himage]

/-- What a viewer makes of a tree whose nodes are weighed, on the screen and in an image: all frames of the
layout are drawn in their order, and the keywords of the image are those of the screen. -/
structure Renders (v : Viewer) (root : FlameNode) (weigh : FlameNode → Nat) (panel : Rect → List Stroke)
    (image : String) : Prop where
  /-- In a panel with room inside there are the bars between the border and the description. -/
  panel : ∀ area, ¬area.inner.isEmpty → panel area = FlamePanel.frameStrokes v area ++
    ((Flame.layoutBy weigh root).flatMap (FlamePanel.bar v area.inner) ++
      FlamePanel.detail weigh v area.inner root)
  /-- An image is read back with the elements of the frames. -/
  image : Markup.read image.toList =
    some (Flame.Svg.document weigh root v.view.unit v.controller.filterKeywords v.theme.isDark)

/-- A frame is marked as a match, on the screen and in an image, exactly if it is `listed`. -/
structure MarksIff (v : Viewer) (f : Flame.Frame Binary64) (listed : Prop) : Prop where
  /-- Its bar has at least one cell on the lines and the columns of a graph, and each is in the frame's
  style. -/
  painted : ∀ inner, FlamePanel.row f < FlamePanel.graphLines inner →
    FlamePanel.column f.start inner.width < inner.width → ∃ symbols ≠ [], FlamePanel.bar v inner f =
      Canvas.puts (inner.x + FlamePanel.column f.start inner.width) (inner.y + FlamePanel.row f)
        (FlamePanel.styleOf v f) symbols 0
  /-- Elsewhere it has none. -/
  hidden : ∀ inner, ¬(FlamePanel.row f < FlamePanel.graphLines inner ∧
    FlamePanel.column f.start inner.width < inner.width) → FlamePanel.bar v inner f = []
  /-- That style has the colour of matches behind the symbols. -/
  screen : (FlamePanel.styleOf v f).background = some v.theme.searchMatch ↔ listed
  /-- The frame's rectangle in an image is filled with the colour of matches there, and with no other. -/
  image : ∀ (weigh : FlameNode → Nat) (unit : String) (dark : Bool) (total : Nat),
    let colour := Flame.Svg.fill f.node.name v.controller.filterKeywords dark
    (∃ attributes inside labels,
      Flame.Svg.frameNodes weigh unit v.controller.filterKeywords dark total f =
        .element "rect" attributes inside :: labels ∧ ∀ c, ("fill", c) ∈ attributes ↔ colour = c) ∧
    (colour = Flame.Svg.matchColour ↔ listed)

theorem marksIff_of_matches {v : Viewer} {f : Flame.Frame Binary64} {listed : Prop}
    (h : v.controller.filterKeywords ≠ [] ∧
      Filter.matchesAny f.node.name v.controller.filterKeywords = true ↔ listed) : MarksIff v f listed where
  painted inner hrow hcolumn := by
    obtain ⟨symbols, hbar, hpositive, -⟩ := FlamePanel.bar_of_visible v hrow hcolumn
    exact ⟨symbols, List.ne_nil_of_length_pos hpositive, hbar⟩
  hidden _ hout := FlamePanel.bar_of_hidden v hout
  screen := by
    rw [FlamePanel.styleOf, FlamePanel.background_frameStyle, Option.some_inj, FlamePanel.fill_eq_searchMatch, h]
  image weigh unit dark total :=
    ⟨Flame.Svg.exists_frameNodes weigh unit _ dark total f, Flame.Svg.fill_eq_matchColour.trans h⟩

/-- **Table, flame graph and image agree on the filter.** The rows that are shown are those that match the
keywords, in their order, or all while there are none. The flame graph and the image that a download writes
draw every frame of the layout with the same keywords, also where sums of weights are no words. A frame is
painted in the colour of matches, and its rectangle in an image is filled with the one there, exactly if there
are keywords and the filter would let a row of the frame's name through, whatever rows the table has. -/
theorem renderers_agree_on_filter (v : Viewer) :
    let keywords := v.controller.filterKeywords
    v.visibleRows = (if keywords = [] then v.view.table
      else v.view.table.filter fun row => Filter.matchesAny row.name keywords) ∧
    (∀ root, v.view.flame = some root →
      (∃ content, (v.download .image).2 = some ⟨.image, content⟩ ∧
        Renders v root FlameNode.weight (FlamePanel.strokes v) content) ∧
      ∀ weigh, Renders v root weigh (FlamePanel.strokesBy weigh v)
        (Flame.Svg.renderBy weigh root v.view.unit keywords v.theme.isDark)) ∧
    ∀ (f : Flame.Frame Binary64) (rows : List TableRow), ∀ row ∈ rows, row.name = f.node.name →
      MarksIff v f (keywords ≠ [] ∧ row ∈ Filter.visible v.view.filter rows) := by
  intro keywords
  have hrenders : ∀ root, v.view.flame = some root → ∀ weigh, Renders v root weigh
      (FlamePanel.strokesBy weigh v) (Flame.Svg.renderBy weigh root v.view.unit keywords v.theme.isDark) :=
    fun root hroot weigh => ⟨fun _ hroom => FlamePanel.strokesBy_of_some weigh hroot hroom,
      (Flame.Svg.read_renderBy weigh _ _ _ _).1⟩
  refine ⟨Filter.visible_eq v.view.filter v.view.table, fun root hroot => ⟨?_, hrenders root hroot⟩,
    fun f rows row hrow hname => marksIff_of_matches ?_⟩
  · exact ⟨_, download_image hroot, hrenders root hroot FlameNode.weight⟩
  · rw [← hname]
    exact Filter.matches_iff_mem_visible hrow

/-- A viewer around a controller that has taken in an answer and a filter text. -/
def showing (d : Diagrams) (filter : String) : Viewer :=
  opened ((Exchange.new default 300 .combine).run
    [.advance 300, .poll, .answer 0 (.data d), .poll, .setFilter filter]) "scripted" .dark none "."

theorem showing_view (d : Diagrams) (filter : String) : (showing d filter).view.table = d.table ∧
    (showing d filter).view.flame = d.flame ∧ (showing d filter).view.filter = filter := ⟨rfl, rfl, rfl⟩

/-- A row and a frame of one name, while the filter text is that name in capitals and between blanks. In a
panel with room for two frames that one is painted in the colour of matches, the one of another name is not. -/
theorem renderers_agree_on_main :
    let row : TableRow := { id := 2, name := "main" }
    let other : TableRow := { id := 1, name := "gc" }
    let root : FlameNode := .mk 2 "main" 7 [.mk 3 "gc" 4 []]
    let v := showing { table := [other, row], flame := some root } " MAIN "
    let area : Rect := { x := 0, y := 0, width := 10, height := 5 }
    let f : Flame.Frame Binary64 := ⟨root, 0, (0 : Nat), (1 : Nat)⟩
    let below : Flame.Frame Binary64 := ⟨.mk 3 "gc" 4 [], 1, (0 : Nat), Binary64.ofRatio false 4 7⟩
    (v.view.flame = some root ∧ v.controller.filterKeywords = ["MAIN"] ∧ ¬area.inner.isEmpty) ∧
    v.visibleRows = [row] ∧
    (∃ content, (v.download .image).2 = some ⟨.image, content⟩ ∧
      Renders v root FlameNode.weight (FlamePanel.strokes v) content) ∧
    (∃ symbols ≠ [], FlamePanel.bar v area.inner f = Canvas.puts 1 1 (FlamePanel.styleOf v f) symbols 0) ∧
    (FlamePanel.styleOf v f).background = some v.theme.searchMatch ∧
    (∃ symbols ≠ [],
      FlamePanel.bar v area.inner below = Canvas.puts 1 2 (FlamePanel.styleOf v below) symbols 0) ∧
    (FlamePanel.styleOf v below).background ≠ some v.theme.searchMatch ∧
    Flame.Svg.fill "main" v.controller.filterKeywords true = Flame.Svg.matchColour ∧
    Flame.Svg.fill "gc" v.controller.filterKeywords true ≠ Flame.Svg.matchColour := by
  intro row other root v area f below
  obtain ⟨-, hflame, -⟩ := showing_view { table := [other, row], flame := some root } " MAIN "
  have hkeywords : v.controller.filterKeywords = ["MAIN"] := by decide +kernel
  have hne : v.controller.filterKeywords ≠ [] := ne_of_eq_of_ne hkeywords (List.cons_ne_nil _ _)
  have hadmits : Filter.admits v.view.filter "main" = true ∧ Filter.admits v.view.filter "gc" = false := by
    decide +kernel
  have hvisible : Filter.visible v.view.filter [other, row] = [row] := by
    simp only [Filter.visible, List.filter_cons, List.filter_nil, hadmits, row, other]
    rfl
  have hunlisted : ¬(v.controller.filterKeywords ≠ [] ∧ other ∈ [row]) := fun h =>
    absurd (congrArg TableRow.name (List.mem_singleton.mp h.2)) (by decide)
  have hplace : FlamePanel.column f.start area.inner.width = 0 ∧
      FlamePanel.column below.start area.inner.width = 0 := by decide +kernel
  obtain ⟨-, hroot, hmarks⟩ := v.renderers_agree_on_filter
  have hmain := hmarks f [other, row] row (List.mem_cons_of_mem _ List.mem_cons_self) rfl
  have hgc := hmarks below [other, row] other List.mem_cons_self rfl
  rw [hvisible] at hmain hgc
  have hbar := hmain.painted area.inner (by decide) (by rw [hplace.1]; decide)
  have hbelow := hgc.painted area.inner (by decide) (by rw [hplace.2]; decide)
  rw [hplace.1] at hbar
  rw [hplace.2] at hbelow
  exact ⟨⟨hflame, hkeywords, by decide⟩, hvisible, (hroot root hflame).1, hbar,
    hmain.screen.mpr ⟨hne, List.mem_cons_self⟩, hbelow, hunlisted ∘ hgc.screen.mp,
    (hmain.image FlameNode.weight "" true 7).2.mpr ⟨hne, List.mem_cons_self⟩,
    hunlisted ∘ (hgc.image FlameNode.weight "" true 7).2.mp⟩

/-! ### Keywords inside names -/

/-- **A keyword that stands in a name matches it**, and the rows of the name are shown while it is the
trimmed filter text, if its capital sigmas end a word of the name where they end one of the keyword. They do,
whatever the name is, if each has characters of the keyword on both sides that are not case-ignorable. In
its own place the keyword is found in no other case; what keeps it from being found are only the small
sigmas. -/
theorem keyword_found {name keyword : String} {before after : List Char}
    (h : name.toList = before ++ keyword.toList ++ after) :
    (Text.KeepsSigmas before keyword.toList after →
      Filter.matchesAny name [keyword] = true ∧
      ∀ v : Viewer, Text.trim v.view.filter = keyword →
        ∀ row ∈ v.view.table, row.name = name → row ∈ v.visibleRows) ∧
    ((∀ front rest : List Char, keyword.toList = front ++ Text.capitalSigma :: rest →
        (∃ c ∈ front, Text.caseIgnorable.hold c.toNat = false) ∧
          ∃ c ∈ rest, Text.caseIgnorable.hold c.toNat = false) →
      Text.KeepsSigmas before keyword.toList after) ∧
    (Text.lower keyword.toList <+: (Text.lower name.toList).drop (Text.lower before).length ↔
      Text.KeepsSigmas before keyword.toList after) ∧
    Text.plain (Text.lower keyword.toList) <:+: Text.plain (Text.lower name.toList) := by
  rw [h]
  refine ⟨fun hkeeps => ?_, fun hbetween => Text.keepsSigmas_of_between hbetween before after,
    Text.lower_prefix_iff, Text.plain_lower_infix _ _ _⟩
  have hmatch : Filter.matchesAny name [keyword] = true := by
    rw [Filter.matchesAny_singleton, Filter.nameContains_iff, h]
    exact Text.lower_infix hkeeps
  refine ⟨hmatch, fun v hkeyword row hrow hname => Filter.mem_visible.mpr ⟨hrow, ?_⟩⟩
  rw [← hkeyword, ← hname] at hmatch
  exact Filter.admits_of_matches hmatch

/-- A capital sigma between two letters of the keyword. -/
theorem keyword_found_between :
    let name := "ΘΕΣΗ"
    let keyword := "ΕΣΗ"
    let v := showing { table := [{ name }] } "ΕΣΗ "
    let row : TableRow := { name }
    (name.toList = "Θ".toList ++ keyword.toList ++ [] ∧ Text.KeepsSigmas "Θ".toList keyword.toList [] ∧
      Text.trim v.view.filter = keyword ∧ row ∈ v.view.table) ∧
    Filter.matchesAny name [keyword] = true ∧ row ∈ v.visibleRows := by
  intro name keyword v row
  have hname : name.toList = "Θ".toList ++ keyword.toList ++ [] := by decide
  have hkeeps : Text.KeepsSigmas "Θ".toList keyword.toList [] :=
    Text.lowerIn_eq_lower_iff.mp (by decide +kernel)
  have hkeyword : Text.trim v.view.filter = keyword := by decide +kernel
  have hrow : row ∈ v.view.table := by
    rw [(showing_view _ _).1]
    exact List.mem_singleton_self row
  obtain ⟨hmatch, hvisible⟩ := (keyword_found hname).1 hkeeps
  exact ⟨⟨hname, hkeeps, hkeyword, hrow⟩, hmatch, hvisible v hkeyword row hrow rfl⟩

/-- **A keyword can be missed where it stands**: its last letter is a capital sigma, which ends a word of the
keyword and none of the name. -/
theorem keyword_missed :
    let name := "ΑΣΑ"
    let keyword := "ΑΣ"
    let v := showing { table := [{ name }] } keyword
    (keyword.toList <:+: name.toList ∧ Text.trim v.view.filter = keyword ∧
      v.view.table.map TableRow.name = [name]) ∧
    Filter.matchesAny name [keyword] = false ∧ v.visibleRows.map TableRow.name = [] := by
  intro name keyword v
  exact ⟨⟨Text.occursIn_iff.mp (by decide +kernel), by decide +kernel, by decide +kernel⟩, by decide +kernel,
    by decide +kernel⟩

end Viewer

end ProfileBrowser
