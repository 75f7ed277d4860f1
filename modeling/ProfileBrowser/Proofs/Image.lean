import ProfileBrowser.Flame.Svg
import ProfileBrowser.Proofs.Markup
import ProfileBrowser.Proofs.Weights
/-!
# The image of a flame graph as a document

The image is the text of a tree of elements (`Flame.Svg.toList_renderBy`): a background, a heading, and for
every frame of the layout, in its order, a rectangle with a tooltip and at most one label. Names stand only
in texts; the values of attributes are numbers and colours, which need no entities
(`Flame.Svg.sound_document`). So the image is read back as that tree, with every tooltip, label and heading
as it was, whatever the names and the weights are (`Flame.Svg.read_render`).
-/

namespace ProfileBrowser.Flame

/-- What holds of a palette's colours holds of the one that is picked. -/
theorem pick_of_all {α : Type} (p : α → Prop) {a b c d : α} (h : p a ∧ p b ∧ p c ∧ p d) (name : String) :
    p (pick (a, b, c, d) name) := by
  obtain ⟨ha, hb, hc, hd⟩ := h
  rw [pick]
  split <;> assumption

namespace Svg

open Binary64 (ofNat fixed)
open Markup (Node IsName IsValue IsAttribute isPlain written)

variable (weigh : FlameNode → Nat)

/-! ### The tree -/

/-- A frame's rectangle with its tooltip. -/
def rectangleNode (x y w : Binary64) (colour tip : String) : Node :=
  .element "rect" [("x", fixed 2 x), ("y", fixed 2 y), ("width", fixed 2 w),
    ("height", fixed 2 (ofNat (rowHeight - 1))), ("fill", colour), ("rx", "1")]
    [.element "title" [] [.text tip]]

/-- A frame's label. -/
def labelNode (x y : Binary64) (text : String) : Node :=
  .element "text" [("x", fixed 2 x), ("y", fixed 2 y), ("fill", labelColour),
    ("style", "pointer-events:none")] (Node.ofText text)

/-- A name in at most so many characters: the whole of it, or its start with an ellipsis behind it. -/
def shortened (name : String) (room : Nat) : String :=
  if name.length ≤ room then name
  else if room = 0 then ""
  else String.ofList (name.toList.take (room - 1)) ++ "…"

/-- The elements of a frame: a rectangle with the frame's name, its amount and its share in the whole, and
its name as a label if there is room for it. -/
def frameNodes (unit : String) (keywords : List String) (dark : Bool) (total : Nat)
    (f : Frame Binary64) : List Node :=
  let x := f.start * ofNat imageWidth
  let y := ofNat (headingHeight + f.depth * rowHeight)
  let w := f.width * ofNat imageWidth
  let room := Binary64.truncateTo Word.greatest (w / ofNat letterWidth)
  rectangleNode x y w (fill f.node.name keywords dark)
      (f.node.name ++ " " ++ Amount.shown (weigh f.node) unit ++ " (" ++
        Amount.share (weigh f.node) total ++ ")") ::
    if Binary64.lt (ofNat leastLabelled) w then
      [labelNode (x + ofNat 3) (y + baseline) (shortened f.node.name room)]
    else []

/-- The attributes of the document. -/
def documentAttributes (height : Nat) : List (String × String) :=
  [("xmlns", "http://www.w3.org/2000/svg"),
    ("viewBox", "0 0 " ++ toString imageWidth ++ " " ++ toString height),
    ("width", toString imageWidth), ("height", toString height),
    ("style", "font-family:system-ui,-apple-system,sans-serif;font-size:11px")]

/-- The background. -/
def backgroundNode (height : Nat) (colour : String) : Node :=
  .single "rect" [("width", toString imageWidth), ("height", toString height), ("fill", colour)]

/-- The heading: the root's name and its amount. -/
def headingNode (root : FlameNode) (unit colour : String) : Node :=
  .element "text" [("x", "8"), ("y", "18"), ("fill", colour), ("style", "font-size:13px")]
    [.text (root.name ++ " (" ++ Amount.shown (weigh root) unit ++ ")")]

/-- The image as a tree: the background, the heading and the elements of the frames. -/
def document (root : FlameNode) (unit : String) (keywords : List String) (dark : Bool) : Node :=
  let height := imageHeight root.depth
  let (ground, ink) := groundColours dark
  .element "svg" (documentAttributes height)
    (backgroundNode height ground :: headingNode weigh root unit ink ::
      (layoutBy weigh root).flatMap (frameNodes weigh unit keywords dark (weigh root)))

/-! ### The text of the tree -/

theorem toList_attr (name value : String) : (attr name value).toList = written (name, value) := by
  simp [attr, written, String.toList_append]

theorem toList_rectangle (x y w : Binary64) (colour tip : String) :
    (rectangle x y w colour tip).toList = (rectangleNode x y w colour tip).chars := by
  have hopen : "<rect".toList = '<' :: "rect".toList := by decide
  have htitle : "><title>".toList = '>' :: '<' :: ("title".toList ++ ['>']) := by decide
  have hclose : "</title></rect>".toList = Markup.closing "title" ++ Markup.closing "rect" := by decide
  simp only [rectangle, rectangleNode, toList_attr, Node.chars_element, Node.chars_text, Node.charsAll,
    Markup.opening, String.toList_append, hopen, htitle, hclose, List.flatMap_cons, List.flatMap_nil,
    List.append_nil, List.append_assoc, List.cons_append, List.nil_append]

theorem toList_label (x y : Binary64) (text : String) :
    (label x y text).toList = (labelNode x y text).chars := by
  have hopen : "<text".toList = '<' :: "text".toList := by decide
  have hend : ">".toList = ['>'] := by decide
  have hclose : "</text>".toList = Markup.closing "text" := by decide
  simp only [label, labelNode, toList_attr, Node.chars_element, Node.charsAll_ofText, Markup.opening,
    String.toList_append, hopen, hend, hclose, List.flatMap_cons, List.flatMap_nil, List.append_nil,
    List.append_assoc, List.cons_append, List.nil_append]

theorem truncate_ltr (name : String) (room : Nat) :
    Direction.ltr.truncate name room = shortened name room := by
  rw [Direction.truncate, Direction.truncateChars.eq_def, shortened, String.length_toList]
  split_ifs with hfits hzero
  · exact String.ofList_toList
  · rfl
  · rw [String.ofList_append]
    rfl

theorem toList_element (unit : String) (keywords : List String) (dark : Bool) (total : Nat)
    (f : Frame Binary64) :
    (element weigh unit keywords dark total f).toList =
      Node.charsAll (frameNodes weigh unit keywords dark total f) := by
  simp only [element, frameNodes, tooltip, truncate_ltr]
  split_ifs with hwide
  · rw [String.toList_append, toList_rectangle, toList_label, Node.charsAll, Node.charsAll, Node.charsAll,
      List.append_nil]
  · rw [toList_rectangle, Node.charsAll, Node.charsAll, List.append_nil]

/-- The elements of the frames one after the other. -/
theorem toList_elements (unit : String) (keywords : List String) (dark : Bool) (total : Nat)
    (frames : List (Frame Binary64)) :
    (String.join (frames.map (element weigh unit keywords dark total))).toList =
      Node.charsAll (frames.flatMap (frameNodes weigh unit keywords dark total)) := by
  induction frames with
  | nil => rfl
  | cons f frames ih =>
    rw [String.toList_join] at ih ⊢
    rw [List.map_cons, List.flatMap_cons, List.flatMap_cons, Node.charsAll_append, toList_element, ih]

theorem toList_documentStart (height : Nat) :
    (documentStart height).toList = Markup.opening "svg" (documentAttributes height) ++ ['>'] := by
  have hopen : "<svg".toList = '<' :: "svg".toList := by decide
  have hend : ">".toList = ['>'] := by decide
  simp only [documentStart, documentAttributes, toList_attr, Markup.opening, String.toList_append, hopen,
    hend, List.flatMap_cons, List.flatMap_nil, List.append_nil, List.append_assoc, List.cons_append]

theorem toList_background (height : Nat) (colour : String) :
    (background height colour).toList = (backgroundNode height colour).chars := by
  have hopen : "<rect".toList = '<' :: "rect".toList := by decide
  have hend : "/>".toList = ['/', '>'] := by decide
  simp only [background, backgroundNode, toList_attr, Node.chars, Markup.opening, String.toList_append,
    hopen, hend, List.flatMap_cons, List.flatMap_nil, List.append_nil, List.append_assoc,
    List.cons_append]

theorem toList_heading (root : FlameNode) (unit colour : String) :
    (heading weigh root unit colour).toList = (headingNode weigh root unit colour).chars := by
  have hopen : "<text".toList = '<' :: "text".toList := by decide
  have hend : ">".toList = ['>'] := by decide
  have hmiddle : (Text.markup " (").toList = " (".toList := by decide
  have hclose : ")</text>".toList = (Text.markup ")").toList ++ Markup.closing "text" := by decide
  simp only [heading, headingNode, toList_attr, Node.chars_element, Node.chars_text, Node.charsAll,
    Markup.opening, String.toList_append, Text.markup_append, hopen, hend, hmiddle, hclose,
    List.flatMap_cons, List.flatMap_nil, List.append_nil, List.append_assoc, List.cons_append,
    List.nil_append]

/-- **The image is the text of its tree.** -/
theorem toList_renderBy (root : FlameNode) (unit : String) (keywords : List String) (dark : Bool) :
    (renderBy weigh root unit keywords dark).toList = (document weigh root unit keywords dark).chars := by
  have hclosing : "</svg>".toList = Markup.closing "svg" := by decide
  simp only [renderBy, document]
  rw [Node.chars, Node.charsAll, Node.charsAll]
  simp only [String.toList_append, toList_documentStart, toList_background, toList_heading, toList_elements,
    hclosing, List.append_assoc, List.cons_append, List.nil_append]

/-! ### Values of attributes -/

theorem isPlain_of_isDigit {c : Char} (h : c.isDigit = true) : isPlain c = true := by
  have hne : ∀ d : Char, d.isDigit = false → c ≠ d := by
    rintro d hd rfl
    exact Bool.false_ne_true (hd.symm.trans h)
  simp [isPlain, hne '<' (by decide), hne '>' (by decide), hne '"' (by decide), hne '&' (by decide)]

theorem isValue_toString (n : Nat) : IsValue (toString n) := by
  intro c hc
  rw [Nat.toString_eq_repr, Nat.toList_repr] at hc
  exact isPlain_of_isDigit (Nat.isDigit_of_mem_toDigits (by decide) (by decide) hc)

theorem isValue_zeros (n : Nat) : IsValue (Binary64.zeros n) := by
  intro c hc
  rw [Binary64.zeros, String.toList_ofList] at hc
  rw [List.eq_of_mem_replicate hc]
  decide

theorem isValue_withPoint (places n : Nat) : IsValue (Binary64.withPoint places n) := by
  simp only [Binary64.withPoint]
  split_ifs with hnone
  · exact isValue_toString _
  · exact (((isValue_toString _).append (by decide)).append (isValue_zeros _)).append (isValue_toString _)

/-- **A number with a fixed number of places** needs no entities, also where it is infinite or none. -/
theorem isValue_fixed (places : Nat) (x : Binary64) : IsValue (fixed places x) := by
  cases x with
  | finite s m q =>
    have hsign : ∀ s, IsValue (if s = true then "-" else "") := by decide
    exact (hsign s).append (isValue_withPoint _ _)
  | infinite s =>
    have hinfinite : ∀ s, IsValue (if s = true then "-inf" else "inf") := by decide
    exact hinfinite s
  | nan =>
    have hnan : IsValue "NaN" := by decide
    exact hnan

/-- **A frame's colour** needs no entities either, whatever its name is. -/
theorem isValue_fill (name : String) (keywords : List String) (dark : Bool) :
    IsValue (fill name keywords dark) := by
  rw [fill]
  split_ifs with hnone hmatch
  · cases dark <;> exact pick_of_all IsValue (by decide) name
  · decide
  · cases dark <;> decide

/-! ### The tree can be read back -/

theorem sound_rectangleNode (x y w : Binary64) {colour tip : String} (hcolour : IsValue colour)
    (htip : tip ≠ "") : (rectangleNode x y w colour tip).Sound := by
  have hattributes : ∀ a ∈ [("x", fixed 2 x), ("y", fixed 2 y), ("width", fixed 2 w),
      ("height", fixed 2 (ofNat (rowHeight - 1))), ("fill", colour), ("rx", "1")], IsAttribute a := by
    simp only [List.forall_mem_cons]
    exact ⟨Markup.isAttribute_of_isValue (by decide) (isValue_fixed _ _),
      Markup.isAttribute_of_isValue (by decide) (isValue_fixed _ _),
      Markup.isAttribute_of_isValue (by decide) (isValue_fixed _ _),
      Markup.isAttribute_of_isValue (by decide) (isValue_fixed _ _),
      Markup.isAttribute_of_isValue (by decide) hcolour, by decide, List.forall_mem_nil _⟩
  exact ⟨by decide, hattributes, ⟨by decide, nofun, htip, nofun, trivial⟩, nofun, trivial⟩

theorem sound_labelNode (x y : Binary64) (text : String) : (labelNode x y text).Sound := by
  have hattributes : ∀ a ∈ [("x", fixed 2 x), ("y", fixed 2 y), ("fill", labelColour),
      ("style", "pointer-events:none")], IsAttribute a := by
    simp only [List.forall_mem_cons]
    exact ⟨Markup.isAttribute_of_isValue (by decide) (isValue_fixed _ _),
      Markup.isAttribute_of_isValue (by decide) (isValue_fixed _ _), by decide, by decide, List.forall_mem_nil _⟩
  exact ⟨by decide, hattributes, Node.soundAll_ofText text⟩

/-- The elements of a frame are no texts, and they can be read back. -/
theorem sound_frameNodes (unit : String) (keywords : List String) (dark : Bool) (total : Nat)
    (f : Frame Binary64) :
    ∀ n ∈ frameNodes weigh unit keywords dark total f, n.Sound ∧ n.isText = false := by
  simp only [frameNodes]
  have hcolour := isValue_fill f.node.name keywords dark
  refine List.forall_mem_cons.mpr ⟨⟨sound_rectangleNode _ _ _ hcolour fun h => ?_, rfl⟩, ?_⟩
  · exact absurd (String.append_eq_empty_iff.mp h).2 (by decide)
  split_ifs with hwide
  · exact List.forall_mem_cons.mpr ⟨⟨sound_labelNode _ _ _, rfl⟩, List.forall_mem_nil _⟩
  · exact List.forall_mem_nil _

theorem isAttribute_document (height : Nat) : ∀ a ∈ documentAttributes height, IsAttribute a := by
  have hbox : IsValue ("0 0 " ++ toString imageWidth ++ " " ++ toString height) :=
    IsValue.append (by decide) (isValue_toString height)
  simp only [documentAttributes, List.forall_mem_cons]
  exact ⟨by decide, Markup.isAttribute_of_isValue (by decide) hbox, by decide,
    Markup.isAttribute_of_isValue (by decide) (isValue_toString _), by decide, List.forall_mem_nil _⟩

theorem sound_backgroundNode (height : Nat) {colour : String} (hcolour : IsValue colour) :
    (backgroundNode height colour).Sound := by
  refine ⟨by decide, ?_⟩
  simp only [List.forall_mem_cons]
  exact ⟨by decide, Markup.isAttribute_of_isValue (by decide) (isValue_toString _),
    Markup.isAttribute_of_isValue (by decide) hcolour, List.forall_mem_nil _⟩

theorem sound_headingNode (root : FlameNode) (unit : String) {colour : String}
    (hcolour : IsValue colour) : (headingNode weigh root unit colour).Sound := by
  have htext : root.name ++ " (" ++ Amount.shown (weigh root) unit ++ ")" ≠ "" :=
    fun h => absurd (String.append_eq_empty_iff.mp h).2 (by decide)
  refine ⟨by decide, ?_, htext, nofun, trivial⟩
  simp only [List.forall_mem_cons]
  exact ⟨by decide, by decide, Markup.isAttribute_of_isValue (by decide) hcolour, by decide, List.forall_mem_nil _⟩

/-- **The tree of an image can be read back**, whatever the names in it are. -/
theorem sound_document (root : FlameNode) (unit : String) (keywords : List String) (dark : Bool) :
    (document weigh root unit keywords dark).Sound := by
  have hcolours : IsValue (groundColours dark).1 ∧ IsValue (groundColours dark).2 := by
    cases dark <;> decide
  refine ⟨by decide, isAttribute_document _, Node.soundAll_of_elements ?_ false⟩
  refine List.forall_mem_cons.mpr ⟨⟨sound_backgroundNode _ hcolours.1, rfl⟩,
    List.forall_mem_cons.mpr ⟨⟨sound_headingNode _ _ _ hcolours.2, rfl⟩, fun n hn => ?_⟩⟩
  obtain ⟨f, -, hn⟩ := List.mem_flatMap.mp hn
  exact sound_frameNodes _ _ _ _ _ f n hn

/-- **An image is read back**, whatever its nodes weigh. -/
theorem read_renderBy (root : FlameNode) (unit : String) (keywords : List String) (dark : Bool) :
    let image := renderBy weigh root unit keywords dark
    let tree := document weigh root unit keywords dark
    Markup.read image.toList = some tree ∧ image.toList = tree.chars ∧
      image.toList.filter Markup.isMark = tree.bare.chars.filter Markup.isMark := by
  intro image tree
  rw [toList_renderBy]
  exact ⟨Markup.read_chars (sound_document _ _ _ _ _) rfl, rfl, Node.filter_chars _⟩

/-! ### The image of a machine -/

/-- An image goes by the weights in its tree. -/
theorem renderBy_congr {weigh weigh' : FlameNode → Nat} {root : FlameNode}
    (h : ∀ place n, root.at? place = some n → weigh n = weigh' n) (unit : String) (keywords : List String)
    (dark : Bool) : renderBy weigh root unit keywords dark = renderBy weigh' root unit keywords dark := by
  have hroot := h [] root rfl
  have helements : (layoutBy weigh' root).map (element weigh unit keywords dark (weigh' root)) =
      (layoutBy weigh' root).map (element weigh' unit keywords dark (weigh' root)) := by
    refine List.map_congr_left fun f hf => ?_
    obtain ⟨place, hplace⟩ := exists_at?_of_mem_layoutBy hf
    simp only [element, tooltip, h place f.node hplace]
  simp only [renderBy, heading, hroot, layoutBy_congr h, helements]

/-- **An image is read back** as one element with the background, the heading and, for every frame of the
layout in its order, a rectangle with the tooltip and at most one label. Its characters are those of these
elements with the four characters of the texts written out, and all its brackets and quotation marks are
those that it has without any text. All this holds whatever the nodes weigh, so it holds of the weights that
a machine makes in words too. No sum of them stops it exactly if every weight is a word, and then its image
is that of the tree, also if such sums start again at 0. -/
theorem read_render (root : FlameNode) (unit : String) (keywords : List String) (dark : Bool) :
    (∀ weigh : FlameNode → Nat,
      let image := renderBy weigh root unit keywords dark
      let tree := document weigh root unit keywords dark
      Markup.read image.toList = some tree ∧ image.toList = tree.chars ∧
        image.toList.filter Markup.isMark = tree.bare.chars.filter Markup.isMark) ∧
    (root.InWords ↔ ∀ place n, root.at? place = some n → (n.weightIn .stops).isSome) ∧
    (root.InWords → ∀ o : FlameNode.Overflow,
      renderBy (FlameNode.weighIn o) root unit keywords dark = render root unit keywords dark) :=
  ⟨fun weigh => read_renderBy weigh root unit keywords dark, FlameNode.inWords_iff, fun h o =>
    renderBy_congr (fun place n hplace => FlameNode.weighIn_eq o (h place n hplace)) unit keywords dark⟩

/-- Names of markup characters, the one of the child in the place of a closing tag. -/
theorem read_render_of_marks :
    let root : FlameNode := .mk 1 "a<b> & \"c\"" 0 [.mk 2 "</title>" 3 []]
    root.InWords ∧
    Markup.read (render root "" [] true).toList = some (document FlameNode.weight root "" [] true) ∧
    (layout root : List (Frame Binary64)).map (tooltip FlameNode.weight ·.node "" root.weight) =
      ["a<b> & \"c\" 3 (100.00%)", "</title> 3 (100.00%)"] ∧
    ∀ o, renderBy (FlameNode.weighIn o) root "" [] true = render root "" [] true := by
  intro root
  have hwords : root.InWords := by
    simp [root, FlameNode.inWords_mk, FlameNode.weight, FlameNode.weights, Word.greatest]
  obtain ⟨hread, -, hmachine⟩ := read_render root "" [] true
  exact ⟨hwords, (hread FlameNode.weight).1, by decide +kernel, hmachine hwords⟩

end Svg

end ProfileBrowser.Flame
