import Mathlib.Tactic.SplitIfs
import ProfileBrowser.Text.Markup
/-!
# Markup read back

A document as a tree of elements (`Node`), how the tree is written (`Node.chars`), and a reader that goes
over the characters one by one (`Reader.step`). The reader is strict: outside of tags it takes a quotation
mark or a bracket only as one of the four entities, it knows no other entity, and every element has to be
closed by its own name.

What is written is read back as the same tree (`read_chars`), whatever its texts are, so no text can open,
close or split an element. All the brackets and quotation marks of a document are those that it has
without its texts (`filter_chars`).
-/

namespace ProfileBrowser

/-! ### Entities -/

namespace Text

/-- A text with one character replaced. -/
def replace (c : Char) (entity : String) (cs : List Char) : List Char :=
  cs.flatMap fun d => if d = c then entity.toList else [d]

/-- **Text inside markup** has four characters replaced one after the other, the ampersand first: the later
replacements find no new ampersand to replace, and none of them finds a character of an entity. -/
theorem toList_markup (s : String) :
    (markup s).toList =
      replace '"' "&quot;" (replace '>' "&gt;" (replace '<' "&lt;" (replace '&' "&amp;" s.toList))) := by
  simp only [markup, String.toList_ofList, replace, List.flatMap_assoc]
  congr 1
  funext c
  simp only [markupChar]
  split_ifs with hamp hlt hgt hquot
  · subst hamp
    decide
  · subst hlt
    decide
  · subst hgt
    decide
  · subst hquot
    decide
  · simp only [List.flatMap_cons, List.flatMap_nil, List.append_nil, if_neg hlt, if_neg hgt, if_neg hquot]

theorem markup_append (s t : String) : (markup (s ++ t)).toList = (markup s).toList ++ (markup t).toList := by
  simp only [markup, String.toList_ofList, String.toList_append, List.flatMap_append]

end Text

namespace Markup

open Text (markupChar)

/-! ### Trees -/

/-- A part of a document. -/
inductive Node where
  | text (s : String)
  /-- An element in one tag. -/
  | single (name : String) (attributes : List (String × String))
  /-- An element between two tags. -/
  | element (name : String) (attributes : List (String × String)) (children : List Node)
deriving Inhabited

namespace Node

/-- The node of a text; an empty one has none. -/
def ofText (s : String) : List Node := if s = "" then [] else [.text s]

theorem ofText_ofList_nil : ofText (String.ofList []) = [] := if_pos rfl

/-- Whether a node is a text. -/
def isText : Node → Bool
  | text _ => true
  | single _ _ => false
  | element _ _ _ => false

end Node

/-! ### Writing -/

/-- An attribute with the blank before it. -/
def written (a : String × String) : List Char :=
  ' ' :: (a.1.toList ++ '=' :: '"' :: (a.2.toList ++ ['"']))

/-- A tag without its end. -/
def opening (name : String) (attributes : List (String × String)) : List Char :=
  '<' :: (name.toList ++ attributes.flatMap written)

/-- The tag that closes an element. -/
def closing (name : String) : List Char := '<' :: '/' :: (name.toList ++ ['>'])

mutual
/-- The characters of a node. -/
def Node.chars : Node → List Char
  | .text s => s.toList.flatMap markupChar
  | .single name attributes => opening name attributes ++ ['/', '>']
  | .element name attributes children =>
    opening name attributes ++ '>' :: (Node.charsAll children ++ closing name)

/-- The characters of nodes one after the other. -/
def Node.charsAll : List Node → List Char
  | [] => []
  | n :: rest => n.chars ++ Node.charsAll rest
end

theorem Node.chars_text (s : String) : (Node.text s).chars = (Text.markup s).toList := by
  rw [Node.chars, Text.markup, String.toList_ofList]

theorem Node.chars_element (name : String) (attributes : List (String × String)) (children : List Node) :
    (Node.element name attributes children).chars =
      opening name attributes ++ '>' :: (Node.charsAll children ++ closing name) := by
  rw [Node.chars]

theorem Node.charsAll_ofText (s : String) : Node.charsAll (Node.ofText s) = (Text.markup s).toList := by
  rw [Node.ofText]
  split_ifs with hs
  · rw [hs]
    rfl
  · rw [Node.charsAll, Node.charsAll, Node.chars_text, List.append_nil]

theorem Node.charsAll_append (ns rest : List Node) :
    Node.charsAll (ns ++ rest) = Node.charsAll ns ++ Node.charsAll rest := by
  induction ns with
  | nil => rfl
  | cons n ns ih => rw [List.cons_append, charsAll, charsAll, ih, List.append_assoc]

/-! ### Reading -/

/-- An element that is not closed yet. -/
structure Open where
  name : String
  attributes : List (String × String)
  /-- What stands before it in its parent. -/
  before : List Node

/-- Where a reader is. -/
inductive Mode where
  /-- Outside of tags, after a text. -/
  | text (cs : List Char)
  /-- In the name of an entity. -/
  | entity (cs name : List Char)
  /-- After the bracket of a tag. -/
  | opened
  /-- In the name of a tag that closes. -/
  | closing (name : List Char)
  /-- In the name of any other tag. -/
  | name (cs : List Char)
  /-- In the name of an attribute. -/
  | key (tag : String) (attributes : List (String × String)) (cs : List Char)
  /-- Before the value of an attribute. -/
  | equals (tag : String) (attributes : List (String × String)) (key : String)
  /-- In the value of an attribute. -/
  | value (tag : String) (attributes : List (String × String)) (key : String) (cs : List Char)
  /-- After the value of an attribute. -/
  | valued (tag : String) (attributes : List (String × String))
  /-- At the end of a single tag. -/
  | ending (tag : String) (attributes : List (String × String))

/-- A reader: the elements that are open, the innermost first, and what it has read of the innermost. -/
structure Reader where
  above : List Open
  nodes : List Node
  mode : Mode

/-- The character that an entity stands for. -/
def entity? (name : List Char) : Option Char :=
  if name = "amp".toList then some '&'
  else if name = "lt".toList then some '<'
  else if name = "gt".toList then some '>'
  else if name = "quot".toList then some '"'
  else none

/-- Whether a character means nothing to a reader. -/
def isPlain (c : Char) : Bool := c ≠ '<' && c ≠ '>' && c ≠ '"' && c ≠ '&'

namespace Reader

/-- Takes what stands after the name of a tag or after an attribute. -/
def afterName (r : Reader) (tag : String) (attributes : List (String × String)) (c : Char) :
    Option Reader :=
  if c = ' ' then some { r with mode := .key tag attributes [] }
  else if c = '>' then some ⟨⟨tag, attributes, r.nodes⟩ :: r.above, [], .text []⟩
  else if c = '/' then some { r with mode := .ending tag attributes }
  else none

/-- Closes the innermost element, if it has the name. -/
def close (r : Reader) (name : String) : Option Reader :=
  match r.above with
  | [] => none
  | o :: above =>
    if o.name = name then some ⟨above, o.before ++ [.element o.name o.attributes r.nodes], .text []⟩
    else none

/-- Takes a character. -/
def step (r : Reader) (c : Char) : Option Reader :=
  match r.mode with
  | .text cs =>
    if c = '<' then some { r with nodes := r.nodes ++ Node.ofText (String.ofList cs), mode := .opened }
    else if c = '&' then some { r with mode := .entity cs [] }
    else if isPlain c then some { r with mode := .text (cs ++ [c]) }
    else none
  | .entity cs name =>
    if c = ';' then (entity? name).map fun d => { r with mode := .text (cs ++ [d]) }
    else some { r with mode := .entity cs (name ++ [c]) }
  | .opened =>
    if c.isAlpha then some { r with mode := .name [c] }
    else if c = '/' then some { r with mode := .closing [] }
    else none
  | .closing cs =>
    if c.isAlpha then some { r with mode := .closing (cs ++ [c]) }
    else if c = '>' then r.close (String.ofList cs)
    else none
  | .name cs =>
    if c.isAlpha then some { r with mode := .name (cs ++ [c]) }
    else r.afterName (String.ofList cs) [] c
  | .key tag attributes cs =>
    if c.isAlpha then some { r with mode := .key tag attributes (cs ++ [c]) }
    else if c = '=' then some { r with mode := .equals tag attributes (String.ofList cs) }
    else none
  | .equals tag attributes key =>
    if c = '"' then some { r with mode := .value tag attributes key [] } else none
  | .value tag attributes key cs =>
    if isPlain c then some { r with mode := .value tag attributes key (cs ++ [c]) }
    else if c = '"' then
      some { r with mode := .valued tag (attributes ++ [(key, String.ofList cs)]) }
    else none
  | .valued tag attributes => r.afterName tag attributes c
  | .ending tag attributes =>
    if c = '>' then some { r with nodes := r.nodes ++ [.single tag attributes], mode := .text [] }
    else none

/-- Takes characters one after the other. -/
def feed (r : Reader) (cs : List Char) : Option Reader := cs.foldlM step r

end Reader

/-- The one element of a document. -/
def read (cs : List Char) : Option Node :=
  match Reader.feed ⟨[], [], .text []⟩ cs with
  | some ⟨[], [n], .text []⟩ => some n
  | _ => none

/-! ### What is written and read -/

/-- A name has letters only. -/
def IsName (s : String) : Prop := s ≠ "" ∧ ∀ c ∈ s.toList, c.isAlpha = true

instance (s : String) : Decidable (IsName s) :=
  decidable_of_iff (s ≠ "" ∧ s.toList.all Char.isAlpha = true) (and_congr_right fun _ => List.all_eq_true)

/-- A value needs no entities. -/
def IsValue (s : String) : Prop := ∀ c ∈ s.toList, isPlain c = true

instance (s : String) : Decidable (IsValue s) :=
  decidable_of_iff (s.toList.all isPlain = true) List.all_eq_true

theorem IsValue.append {s t : String} (hs : IsValue s) (ht : IsValue t) : IsValue (s ++ t) := by
  intro c hc
  rw [String.toList_append] at hc
  exact (List.mem_append.mp hc).elim (hs c) (ht c)

/-- An attribute has a name and a value. -/
def IsAttribute (a : String × String) : Prop := IsName a.1 ∧ IsValue a.2

instance (a : String × String) : Decidable (IsAttribute a) := inferInstanceAs (Decidable (_ ∧ _))

theorem isAttribute_of_isValue {name value : String} (hname : IsName name) (hvalue : IsValue value) :
    IsAttribute (name, value) := ⟨hname, hvalue⟩

mutual
/-- A tree that can be read back: its names are names, its attributes need no entities, and there are no
empty texts and no two texts side by side. -/
def Node.Sound : Node → Prop
  | .text s => s ≠ ""
  | .single name attributes => IsName name ∧ ∀ a ∈ attributes, IsAttribute a
  | .element name attributes children =>
    IsName name ∧ (∀ a ∈ attributes, IsAttribute a) ∧ Node.SoundAll false children

/-- Nodes that can be read back after a text or after none. -/
def Node.SoundAll : Bool → List Node → Prop
  | _, [] => True
  | afterText, n :: rest =>
    n.Sound ∧ (afterText = true → n.isText = false) ∧ Node.SoundAll n.isText rest
end

/-- Elements can stand side by side. -/
theorem Node.soundAll_of_elements {ns : List Node} (h : ∀ n ∈ ns, n.Sound ∧ n.isText = false)
    (afterText : Bool) : Node.SoundAll afterText ns := by
  induction ns generalizing afterText with
  | nil => trivial
  | cons n ns ih =>
    have hn := h n List.mem_cons_self
    exact ⟨hn.1, fun _ => hn.2, ih (fun m hm => h m (List.mem_cons_of_mem _ hm)) _⟩

/-- So can an element hold a text. -/
theorem Node.soundAll_ofText (s : String) : Node.SoundAll false (Node.ofText s) := by
  rw [Node.ofText]
  split_ifs with hs
  · trivial
  · exact ⟨hs, nofun, trivial⟩

namespace Reader

variable {r s : Reader} {above : List Open} {nodes : List Node}

theorem feed_nil (r : Reader) : r.feed [] = some r := rfl

theorem feed_cons {c : Char} (h : r.step c = some s) (cs : List Char) : r.feed (c :: cs) = s.feed cs := by
  rw [feed, List.foldlM_cons, h]
  rfl

theorem feed_append {front : List Char} (h : r.feed front = some s) (cs : List Char) :
    r.feed (front ++ cs) = s.feed cs := by
  rw [feed] at h
  rw [feed, List.foldlM_append, h]
  rfl

/-- A mode that gathers characters of a kind gathers all of them. -/
theorem feed_gather {mode : List Char → Mode} {isKind : Char → Bool}
    (h : ∀ cs c, isKind c → step ⟨above, nodes, mode cs⟩ c = some ⟨above, nodes, mode (cs ++ [c])⟩)
    {cs : List Char} (hcs : ∀ c ∈ cs, isKind c) (gathered : List Char) :
    feed ⟨above, nodes, mode gathered⟩ cs = some ⟨above, nodes, mode (gathered ++ cs)⟩ := by
  induction cs generalizing gathered with
  | nil => rw [List.append_nil, feed_nil]
  | cons c cs ih =>
    rw [feed_cons (h gathered c (hcs c List.mem_cons_self)), ih fun d hd => hcs d (List.mem_cons_of_mem _ hd),
      List.append_assoc, List.singleton_append]

/-! ### Texts -/

/-- **A character of a text** is read back. -/
theorem feed_markupChar (cs : List Char) (c : Char) :
    feed ⟨above, nodes, .text cs⟩ (markupChar c) = some ⟨above, nodes, .text (cs ++ [c])⟩ := by
  rw [markupChar]
  split_ifs with hamp hlt hgt hquot
  · rw [hamp]
    rfl
  · rw [hlt]
    rfl
  · rw [hgt]
    rfl
  · rw [hquot]
    rfl
  · have hplain : isPlain c := by simp [isPlain, hamp, hlt, hgt, hquot]
    have hstep : step ⟨above, nodes, .text cs⟩ c = some ⟨above, nodes, .text (cs ++ [c])⟩ := by
      simp only [step, if_neg hlt, if_neg hamp, if_pos hplain]
    rw [feed_cons hstep, feed_nil]

theorem feed_text (text cs : List Char) :
    feed ⟨above, nodes, .text cs⟩ (text.flatMap markupChar) = some ⟨above, nodes, .text (cs ++ text)⟩ := by
  induction text generalizing cs with
  | nil => rw [List.append_nil, List.flatMap_nil, feed_nil]
  | cons c text ih =>
    rw [List.flatMap_cons, feed_append (feed_markupChar cs c), ih, List.append_assoc, List.singleton_append]

/-! ### Tags -/

end Reader

/-- A mode after the name of a tag and attributes of it. -/
def Mode.After (tag : String) (attributes : List (String × String)) (mode : Mode) : Prop :=
  ∀ above nodes c, c.isAlpha = false →
    Reader.step ⟨above, nodes, mode⟩ c = Reader.afterName ⟨above, nodes, mode⟩ tag attributes c

theorem Mode.after_name (tag : String) : (Mode.name tag.toList).After tag [] := by
  intro above nodes c hc
  simp only [Reader.step, hc, Bool.false_eq_true, if_false, String.ofList_toList]

theorem Mode.after_valued (tag : String) (attributes : List (String × String)) :
    (Mode.valued tag attributes).After tag attributes := fun _ _ _ _ => rfl

namespace Reader

variable {above : List Open} {nodes : List Node}

/-- **An attribute** is read back. -/
theorem feed_written {tag : String} {attributes : List (String × String)} {mode : Mode}
    (hmode : mode.After tag attributes) {a : String × String} (ha : IsAttribute a) :
    feed ⟨above, nodes, mode⟩ (written a) =
      some ⟨above, nodes, .valued tag (attributes ++ [a])⟩ := by
  obtain ⟨key, value⟩ := a
  obtain ⟨⟨-, hkey⟩, hvalue⟩ := ha
  have hblank : step ⟨above, nodes, mode⟩ ' ' = some ⟨above, nodes, .key tag attributes []⟩ :=
    hmode above nodes ' ' (by decide)
  have hgather : feed ⟨above, nodes, .key tag attributes []⟩ key.toList =
      some ⟨above, nodes, .key tag attributes key.toList⟩ :=
    feed_gather (fun cs c hc => by simp only [step, if_pos hc]) hkey []
  have hequals : step ⟨above, nodes, .key tag attributes key.toList⟩ '=' =
      some ⟨above, nodes, .equals tag attributes key⟩ := by
    show some (Reader.mk above nodes (.equals tag attributes (String.ofList key.toList))) = _
    rw [String.ofList_toList]
  have hopened : step ⟨above, nodes, .equals tag attributes key⟩ '"' =
      some ⟨above, nodes, .value tag attributes key []⟩ := rfl
  have hvalues : feed ⟨above, nodes, .value tag attributes key []⟩ value.toList =
      some ⟨above, nodes, .value tag attributes key value.toList⟩ :=
    feed_gather (fun cs c hc => by simp only [step, if_pos hc]) hvalue []
  have hclosed : step ⟨above, nodes, .value tag attributes key value.toList⟩ '"' =
      some ⟨above, nodes, .valued tag (attributes ++ [(key, value)])⟩ := by
    show some (Reader.mk above nodes
      (.valued tag (attributes ++ [(key, String.ofList value.toList)]))) = _
    rw [String.ofList_toList]
  rw [written, feed_cons hblank, feed_append hgather, feed_cons hequals, feed_cons hopened,
    feed_append hvalues, feed_cons hclosed, feed_nil]

/-- **Attributes** are read back one after the other. -/
theorem feed_attributes {tag : String} {attributes : List (String × String)} {mode : Mode}
    (hmode : mode.After tag attributes) {rest : List (String × String)}
    (hrest : ∀ a ∈ rest, IsAttribute a) :
    ∃ last : Mode, last.After tag (attributes ++ rest) ∧ ∀ above nodes,
      feed ⟨above, nodes, mode⟩ (rest.flatMap written) = some ⟨above, nodes, last⟩ := by
  induction rest generalizing attributes mode with
  | nil => exact ⟨mode, by rwa [List.append_nil], fun above nodes => feed_nil _⟩
  | cons a rest ih =>
    obtain ⟨last, hlast, hfeed⟩ := ih (Mode.after_valued tag (attributes ++ [a]))
      fun b hb => hrest b (List.mem_cons_of_mem _ hb)
    refine ⟨last, by rwa [List.append_assoc] at hlast, fun above nodes => ?_⟩
    rw [List.flatMap_cons, feed_append (feed_written hmode (hrest a List.mem_cons_self)), hfeed]

/-- **The beginning of a tag** is read back; a text before it has ended. -/
theorem feed_opening {name : String} {attributes : List (String × String)} (hname : IsName name)
    (hattributes : ∀ a ∈ attributes, IsAttribute a) :
    ∃ last : Mode, last.After name attributes ∧ ∀ above nodes text,
      feed ⟨above, nodes, .text text⟩ (opening name attributes) =
        some ⟨above, nodes ++ Node.ofText (String.ofList text), last⟩ := by
  obtain ⟨last, hlast, hfeed⟩ := feed_attributes (Mode.after_name name) hattributes
  refine ⟨last, hlast, fun above nodes text => ?_⟩
  obtain ⟨hne, hletters⟩ := hname
  have hbracket : step ⟨above, nodes, .text text⟩ '<' =
      some ⟨above, nodes ++ Node.ofText (String.ofList text), .opened⟩ := rfl
  have hgather : feed ⟨above, nodes ++ Node.ofText (String.ofList text), .opened⟩ name.toList =
      some ⟨above, nodes ++ Node.ofText (String.ofList text), .name name.toList⟩ := by
    cases hcs : name.toList with
    | nil => exact absurd (String.toList_eq_nil_iff.mp hcs) hne
    | cons c cs =>
      rw [hcs] at hletters
      have hfirst : step ⟨above, nodes ++ Node.ofText (String.ofList text), .opened⟩ c =
          some ⟨above, nodes ++ Node.ofText (String.ofList text), .name [c]⟩ := by
        simp only [step, if_pos (hletters c List.mem_cons_self)]
      rw [feed_cons hfirst]
      exact feed_gather (fun cs c hc => by simp only [step, if_pos hc])
        (fun d hd => hletters d (List.mem_cons_of_mem _ hd)) [c]
  rw [opening, feed_cons hbracket, feed_append hgather, hfeed]

/-- **The tag that closes an element** is read back. -/
theorem feed_closing {name : String} (hname : IsName name) (attributes : List (String × String))
    (before : List Node) (text : List Char) :
    feed ⟨⟨name, attributes, before⟩ :: above, nodes, .text text⟩ (closing name) =
      some ⟨above, before ++ [.element name attributes (nodes ++ Node.ofText (String.ofList text))],
        .text []⟩ := by
  have hgather : feed ⟨⟨name, attributes, before⟩ :: above,
      nodes ++ Node.ofText (String.ofList text), .closing []⟩ name.toList =
      some ⟨⟨name, attributes, before⟩ :: above, nodes ++ Node.ofText (String.ofList text),
        .closing name.toList⟩ :=
    feed_gather (fun cs c hc => by simp only [step, if_pos hc]) hname.2 []
  have hclosed : step ⟨⟨name, attributes, before⟩ :: above,
      nodes ++ Node.ofText (String.ofList text), .closing name.toList⟩ '>' =
      some ⟨above, before ++ [.element name attributes (nodes ++ Node.ofText (String.ofList text))],
        .text []⟩ := by
    show close ⟨⟨name, attributes, before⟩ :: above, nodes ++ Node.ofText (String.ofList text),
      .closing name.toList⟩ (String.ofList name.toList) = _
    rw [String.ofList_toList]
    exact if_pos rfl
  rw [closing, feed_cons rfl, feed_cons rfl, feed_append hgather, feed_cons hclosed, feed_nil]

/-! ### Trees -/

-- A text becomes a node only when the next tag begins. So what is read is the nodes and the pending text
-- together, and only a text may leave some of it pending.
mutual
/-- **A node is read back**, after a text or after none. -/
theorem feed_chars : (n : Node) → n.Sound → ∀ (above : List Open) (nodes : List Node) (text : List Char),
    (n.isText = true → text = []) → ∃ nodes' text',
      feed ⟨above, nodes, .text text⟩ n.chars = some ⟨above, nodes', .text text'⟩ ∧
      nodes' ++ Node.ofText (String.ofList text') = nodes ++ Node.ofText (String.ofList text) ++ [n] ∧
      (n.isText = false → text' = [])
  | .text s, h, above, nodes, text, htext => by
    have hs : Node.ofText s = [.text s] := if_neg h
    refine ⟨nodes, s.toList, ?_, ?_, nofun⟩
    · rw [htext rfl, Node.chars, feed_text, List.nil_append]
    · rw [htext rfl, String.ofList_toList, hs, Node.ofText_ofList_nil, List.append_nil]
  | .single name attributes, h, above, nodes, text, _ => by
    obtain ⟨last, hlast, hopening⟩ := feed_opening h.1 h.2
    have hslash := hlast above (nodes ++ Node.ofText (String.ofList text)) '/' (by decide)
    refine ⟨_, [], ?_, List.append_nil _, fun _ => rfl⟩
    rw [Node.chars, feed_append (hopening above nodes text), feed_cons hslash, feed_cons rfl, feed_nil]
  | .element name attributes children, h, above, nodes, text, _ => by
    obtain ⟨last, hlast, hopening⟩ := feed_opening h.1 h.2.1
    have hend := hlast above (nodes ++ Node.ofText (String.ofList text)) '>' (by decide)
    obtain ⟨nodes', text', hchildren, hread⟩ := feed_charsAll children false h.2.2
      (⟨name, attributes, nodes ++ Node.ofText (String.ofList text)⟩ :: above) [] [] fun _ => rfl
    have hall : nodes' ++ Node.ofText (String.ofList text') = children := hread
    refine ⟨_, [], ?_, List.append_nil _, fun _ => rfl⟩
    rw [Node.chars, feed_append (hopening above nodes text), feed_cons hend, feed_append hchildren,
      feed_closing h.1, hall]

/-- **Nodes are read back** one after the other. -/
theorem feed_charsAll : (ns : List Node) → ∀ afterText, Node.SoundAll afterText ns →
    ∀ (above : List Open) (nodes : List Node) (text : List Char), (afterText = false → text = []) →
      ∃ nodes' text',
        feed ⟨above, nodes, .text text⟩ (Node.charsAll ns) = some ⟨above, nodes', .text text'⟩ ∧
        nodes' ++ Node.ofText (String.ofList text') = nodes ++ Node.ofText (String.ofList text) ++ ns
  | [], _, _, above, nodes, text, _ => ⟨nodes, text, feed_nil _, (List.append_nil _).symm⟩
  | n :: rest, afterText, h, above, nodes, text, htext => by
    obtain ⟨hn, hside, hrest⟩ := h
    have hnone : n.isText = true → text = [] := by
      intro hisText
      cases afterText with
      | false => exact htext rfl
      | true => exact nomatch hisText.symm.trans (hside rfl)
    obtain ⟨nodes₁, text₁, hfeed, hread, hends⟩ := feed_chars n hn above nodes text hnone
    obtain ⟨nodes₂, text₂, hfeeds, hreads⟩ := feed_charsAll rest n.isText hrest above nodes₁ text₁ hends
    refine ⟨nodes₂, text₂, ?_, ?_⟩
    · rw [Node.charsAll, feed_append hfeed, hfeeds]
    · rw [hreads, hread, List.append_assoc, List.singleton_append]
end

end Reader

/-- **A document is read back** as the tree that it was written from. -/
theorem read_chars {n : Node} (h : n.Sound) (hn : n.isText = false) : read n.chars = some n := by
  obtain ⟨nodes, text, hfeed, hread, hends⟩ := Reader.feed_chars n h [] [] [] (by simp [hn])
  obtain rfl := hends hn
  obtain rfl : nodes = [n] := by simpa [Node.ofText] using hread
  rw [read, hfeed]

example : (read "<a>&lt;<b c=\"d\"/></a>".toList).isSome := by decide

example : (read "<a>a<b</a>".toList).isNone ∧ (read "<a></b>".toList).isNone := by decide

/-! ### Brackets and quotation marks -/

/-- Whether a character is a bracket or a quotation mark. -/
def isMark (c : Char) : Bool := c = '<' || c = '>' || c = '"'

mutual
/-- A tree without its texts. -/
def Node.bare : Node → Node
  | .text _ => .text ""
  | .single name attributes => .single name attributes
  | .element name attributes children => .element name attributes (Node.bareAll children)

/-- `bare` on nodes. -/
def Node.bareAll : List Node → List Node
  | [] => []
  | n :: rest => n.bare :: Node.bareAll rest
end

theorem filter_markupChar (c : Char) : (markupChar c).filter isMark = [] := by
  rw [markupChar]
  split_ifs with hamp hlt hgt hquot
  · decide
  · decide
  · decide
  · decide
  · have hplain : isMark c = false := by simp [isMark, hlt, hgt, hquot]
    rw [List.filter_cons_of_neg (by simp [hplain]), List.filter_nil]

mutual
/-- **The brackets and the quotation marks of a document** are those that it has without its texts. -/
theorem Node.filter_chars : (n : Node) → n.chars.filter isMark = n.bare.chars.filter isMark
  | .text s => by
    have htext : (s.toList.flatMap markupChar).filter isMark = [] := by
      rw [List.filter_flatMap, List.flatMap_eq_nil_iff]
      exact fun c _ => filter_markupChar c
    rw [Node.chars, htext]
    rfl
  | .single name attributes => rfl
  | .element name attributes children => by
    rw [Node.bare, Node.chars, Node.chars, List.filter_append, List.filter_append, List.filter_cons,
      List.filter_cons, List.filter_append, List.filter_append, filter_charsAll children]

theorem Node.filter_charsAll : (ns : List Node) →
    (Node.charsAll ns).filter isMark = (Node.charsAll (Node.bareAll ns)).filter isMark
  | [] => rfl
  | n :: rest => by
    rw [Node.bareAll, Node.charsAll, Node.charsAll, List.filter_append, List.filter_append,
      filter_chars n, filter_charsAll rest]
end

end Markup

end ProfileBrowser
