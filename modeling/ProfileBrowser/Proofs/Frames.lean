import Mathlib.Data.List.Forall2
import Mathlib.Order.Lattice
import ProfileBrowser.Flame.Layout
/-!
# The nodes that a layout shows

A node stands at a *place* of its tree: the numbers of the children on the way down to it, so that a
place says which node is meant even where many nodes are equal (`FlameNode.at?`). In the order of
lists a place comes before those below it, and those below one child before those below the next.

A node weighs something exactly when a value is reported for it or below it (`FlameNode.weight_pos_iff`),
so leaving out the children without a weight loses no value. The layout goes over the places of what
weighs something, in their order and over each once (`Flame.layout_places`).
-/

namespace ProfileBrowser

namespace FlameNode

/-! ### Places -/

/-- The node at a place, which numbers the children on the way down to it. -/
def at? (n : FlameNode) : List Nat → Option FlameNode
  | [] => some n
  | i :: place => n.children[i]?.bind fun child => child.at? place

variable {n m child : FlameNode} {i : Nat} {place : List Nat}

@[simp] theorem at?_nil (n : FlameNode) : n.at? [] = some n := rfl

theorem at?_of_child (h : n.children[i]? = some child) (place : List Nat) :
    n.at? (i :: place) = child.at? place := by
  rw [at?, h, Option.bind_some]

/-- A place below a node is one below a child. -/
theorem at?_cons_eq_some :
    n.at? (i :: place) = some m ↔ ∃ child, n.children[i]? = some child ∧ child.at? place = some m :=
  Option.bind_eq_some_iff

/-- A place in two steps. -/
theorem at?_append (n : FlameNode) (place below : List Nat) :
    n.at? (place ++ below) = (n.at? place).bind fun m => m.at? below := by
  induction place generalizing n with
  | nil => rfl
  | cons i place ih =>
    rw [List.cons_append, at?, at?, Option.bind_assoc]
    exact congrArg _ (funext fun child => ih child)

mutual
/-- **What holds of every node whose children it holds of holds of every node.** -/
theorem induct {P : FlameNode → Prop} (h : ∀ n : FlameNode, (∀ child ∈ n.children, P child) → P n) :
    ∀ n, P n
  | mk id name value children => h (mk id name value children) (induct_children h children)

/-- So it holds of the children of every node. -/
theorem induct_children {P : FlameNode → Prop}
    (h : ∀ n : FlameNode, (∀ child ∈ n.children, P child) → P n) :
    ∀ children : List FlameNode, ∀ child ∈ children, P child
  | [] => nofun
  | child :: rest => List.forall_mem_cons.mpr ⟨induct h child, induct_children h rest⟩
end

/-! ### Weights and depths -/

theorem weight_eq (n : FlameNode) :
    n.weight = if 0 < n.value then n.value.toNat else weights n.children := by
  cases n
  rw [weight]
  rfl

theorem depth_eq (n : FlameNode) : n.depth = 1 + depths n.children := by
  cases n
  rw [depth]
  rfl

theorem weights_pos_iff {ns : List FlameNode} : 0 < weights ns ↔ ∃ n ∈ ns, 0 < n.weight := by
  induction ns with
  | nil => simp [weights]
  | cons n rest ih => rw [weights, Nat.add_pos_iff_pos_or_pos, ih, List.exists_mem_cons_iff]

theorem depth_le_depths {ns : List FlameNode} (h : n ∈ ns) : n.depth ≤ depths ns := by
  induction ns with
  | nil => cases h
  | cons m rest ih =>
    rw [depths]
    rcases List.mem_cons.mp h with rfl | h
    · exact le_max_left _ _
    · exact (ih h).trans (le_max_right _ _)

/-- A place is shorter than the tree is deep. -/
theorem length_lt_depth (h : n.at? place = some m) : place.length < n.depth := by
  induction place generalizing n with
  | nil =>
    rw [depth_eq]
    exact Nat.lt_add_right _ Nat.one_pos
  | cons i place ih =>
    obtain ⟨child, hchild, hplace⟩ := at?_cons_eq_some.mp h
    have hdepth := depth_le_depths (List.mem_of_getElem? hchild)
    have hlength := ih hplace
    rw [depth_eq, List.length_cons]
    omega

theorem weight_pos_of_value (h : 0 < n.value) : 0 < n.weight := by
  rw [weight_eq, if_pos h]
  exact h

/-- A child that weighs something gives its parent a weight. -/
theorem weight_pos_of_child (h : child ∈ n.children) (hchild : 0 < child.weight) : 0 < n.weight := by
  rw [weight_eq]
  split_ifs with hvalue
  · exact hvalue
  · exact weights_pos_iff.mpr ⟨child, h, hchild⟩

/-- So does what weighs something further down. -/
theorem weight_pos_of_at? (h : n.at? place = some m) (hm : 0 < m.weight) : 0 < n.weight := by
  induction place generalizing n with
  | nil => exact Option.some.inj h ▸ hm
  | cons i place ih =>
    obtain ⟨child, hchild, hplace⟩ := at?_cons_eq_some.mp h
    exact weight_pos_of_child (List.mem_of_getElem? hchild) (ih hplace)

/-- **A node weighs something exactly when a value is reported for it or below it.** -/
theorem weight_pos_iff (n : FlameNode) :
    0 < n.weight ↔ ∃ place m, n.at? place = some m ∧ 0 < m.value := by
  refine ⟨fun h => ?_, fun ⟨place, m, hplace, hm⟩ => weight_pos_of_at? hplace (weight_pos_of_value hm)⟩
  induction n using induct with
  | h n ih =>
    by_cases hvalue : 0 < n.value
    · exact ⟨[], n, rfl, hvalue⟩
    · -- Without a value of its own it has the weight of its children.
      rw [weight_eq, if_neg hvalue] at h
      obtain ⟨child, hmem, hchild⟩ := weights_pos_iff.mp h
      obtain ⟨place, m, hplace, hm⟩ := ih child hmem hchild
      obtain ⟨i, hi⟩ := List.mem_iff_getElem?.mp hmem
      exact ⟨i :: place, m, (at?_of_child hi place).trans hplace, hm⟩

/-! ### The places of what weighs something -/

mutual
/-- The places of a node and of what weighs something below it, parents before children. -/
def places : FlameNode → List (List Nat)
  | mk _ _ _ children => [] :: placesFrom 0 children

/-- The places of what weighs something among children that are counted from `i` on. -/
def placesFrom (i : Nat) : List FlameNode → List (List Nat)
  | [] => []
  | child :: rest =>
    if child.weight = 0 then placesFrom (i + 1) rest
    else child.places.map (i :: ·) ++ placesFrom (i + 1) rest
end

theorem places_eq (n : FlameNode) : n.places = [] :: placesFrom 0 n.children := by
  cases n
  rw [places]
  rfl

theorem placesFrom_of_weightless (h : child.weight = 0) (i : Nat) (rest : List FlameNode) :
    placesFrom i (child :: rest) = placesFrom (i + 1) rest := by
  rw [placesFrom, if_pos h]

theorem placesFrom_of_weight (h : child.weight ≠ 0) (i : Nat) (rest : List FlameNode) :
    placesFrom i (child :: rest) = child.places.map (i :: ·) ++ placesFrom (i + 1) rest := by
  rw [placesFrom, if_neg h]

theorem mem_placesFrom {ns : List FlameNode} :
    place ∈ placesFrom i ns ↔ ∃ j child below,
      place = (i + j) :: below ∧ ns[j]? = some child ∧ 0 < child.weight ∧ below ∈ child.places := by
  induction ns generalizing i with
  | nil => simp [placesFrom]
  | cons first rest ih =>
    have hlater : place ∈ placesFrom (i + 1) rest ↔ ∃ j child below, place = (i + (j + 1)) :: below ∧
        (first :: rest)[j + 1]? = some child ∧ 0 < child.weight ∧ below ∈ child.places := by
      rw [ih]
      simp only [List.getElem?_cons_succ, Nat.add_assoc, Nat.add_comm 1]
    rw [← Nat.or_exists_add_one, ← hlater]
    by_cases hfirst : first.weight = 0
    · rw [placesFrom_of_weightless hfirst]
      refine (or_iff_right ?_).symm
      rintro ⟨child, below, -, hchild, hweight, -⟩
      cases hchild
      exact absurd hfirst hweight.ne'
    · rw [placesFrom_of_weight hfirst, List.mem_append, List.mem_map]
      refine or_congr_left ⟨?_, ?_⟩
      · rintro ⟨below, hbelow, rfl⟩
        exact ⟨first, below, rfl, rfl, Nat.pos_of_ne_zero hfirst, hbelow⟩
      · rintro ⟨child, below, rfl, hchild, -, hbelow⟩
        cases hchild
        exact ⟨below, hbelow, rfl⟩

/-- **The places are those of the nodes that weigh something.** -/
theorem mem_places (hn : 0 < n.weight) :
    place ∈ n.places ↔ ∃ m, n.at? place = some m ∧ 0 < m.weight := by
  induction n using induct generalizing place with
  | h n ih =>
    rw [places_eq, List.mem_cons]
    cases place with
    | nil => exact iff_of_true (.inl rfl) ⟨n, rfl, hn⟩
    | cons i below =>
      rw [or_iff_right (List.cons_ne_nil i below), mem_placesFrom]
      constructor
      · rintro ⟨j, child, _, heq, hchild, hweight, hbelow⟩
        obtain ⟨rfl, rfl⟩ := List.cons.inj heq
        rw [Nat.zero_add] at *
        rw [at?_of_child hchild]
        exact (ih child (List.mem_of_getElem? hchild) hweight).mp hbelow
      · rintro ⟨m, hm, hweight⟩
        obtain ⟨child, hchild, hbelow⟩ := at?_cons_eq_some.mp hm
        have hpos := weight_pos_of_at? hbelow hweight
        exact ⟨i, child, below, by rw [Nat.zero_add], hchild, hpos,
          (ih child (List.mem_of_getElem? hchild) hpos).mpr ⟨m, hbelow, hweight⟩⟩

/-- The places below children come in order, if those below each child do. -/
theorem pairwise_placesFrom {ns : List FlameNode} (h : ∀ n ∈ ns, n.places.Pairwise (· < ·)) (i : Nat) :
    (placesFrom i ns).Pairwise (· < ·) := by
  induction ns generalizing i with
  | nil => exact .nil
  | cons first rest ih =>
    obtain ⟨hfirst, hrest⟩ := List.forall_mem_cons.mp h
    by_cases hweight : first.weight = 0
    · rw [placesFrom_of_weightless hweight]
      exact ih hrest _
    · rw [placesFrom_of_weight hweight]
      refine List.pairwise_append.mpr ⟨?_, ih hrest _, ?_⟩
      · exact List.pairwise_map.mpr (hfirst.imp fun hlt => List.cons_lt_cons_self.mpr hlt)
      · rintro _ hearlier _ hlater
        obtain ⟨below, -, rfl⟩ := List.mem_map.mp hearlier
        obtain ⟨j, -, -, rfl, -⟩ := mem_placesFrom.mp hlater
        exact List.Lex.rel (by omega)

/-- **The places are in order**, each once. -/
theorem pairwise_places (n : FlameNode) : n.places.Pairwise (· < ·) := by
  induction n using induct with
  | h n ih =>
    rw [places_eq]
    refine List.pairwise_cons.mpr ⟨fun place hplace => ?_, pairwise_placesFrom ih 0⟩
    obtain ⟨j, -, below, rfl, -⟩ := mem_placesFrom.mp hplace
    exact List.nil_lt_cons _ _

end FlameNode

/-! ### Frames -/

namespace Flame

open FlameNode

variable {α : Type}

/-- **A frame at a place**: it shows the node there, as deep as the place is long, counted from the depth
of the tree's root. -/
def At (root : FlameNode) (depth : Nat) (place : List Nat) (f : Frame α) : Prop :=
  root.at? place = some f.node ∧ f.depth = depth + place.length

/-- What is at a place below a child is at a place below its parent. -/
theorem At.of_child {n child : FlameNode} {i depth : Nat} {place : List Nat} {f : Frame α}
    (hchild : n.children[i]? = some child) (h : At child (depth + 1) place f) :
    At n depth (i :: place) f :=
  ⟨(at?_of_child hchild place).trans h.1, by rw [h.2, List.length_cons]; omega⟩

variable [Add α] [Mul α] [Div α] [NatCast α]

section Weighed

variable {weigh : FlameNode → Nat}

theorem frames_eq (weigh : FlameNode → Nat) (depth : Nat) (start width : α) (n : FlameNode) :
    frames weigh depth start width n =
      ⟨n, depth, start, width⟩ :: siblings weigh (depth + 1) (weigh n) width start n.children := by
  cases n
  rw [frames]
  rfl

theorem siblings_of_weightless {child : FlameNode} (h : weigh child = 0) (depth total : Nat)
    (width offset : α) (rest : List FlameNode) :
    siblings weigh depth total width offset (child :: rest) =
      siblings weigh depth total width offset rest := by
  rw [siblings, if_pos h]

theorem siblings_of_weight {child : FlameNode} (h : weigh child ≠ 0) (depth total : Nat)
    (width offset : α) (rest : List FlameNode) :
    siblings weigh depth total width offset (child :: rest) =
      frames weigh depth offset (width * ((weigh child : α) / (total : α))) child ++
        siblings weigh depth total width (offset + width * ((weigh child : α) / (total : α))) rest := by
  rw [siblings, if_neg h]

end Weighed

/-- The frames of the children from the `i`-th on go over their places, if those of each child do. -/
theorem siblings_at {n : FlameNode} {depth : Nat}
    (h : ∀ child ∈ n.children, ∀ start width : α,
      List.Forall₂ (At child (depth + 1)) child.places (frames weight (depth + 1) start width child))
    (i total : Nat) (width offset : α) :
    List.Forall₂ (At n depth) (placesFrom i (n.children.drop i))
      (siblings weight (depth + 1) total width offset (n.children.drop i)) := by
  generalize hrest : n.children.drop i = rest
  induction rest generalizing i offset with
  | nil =>
    rw [placesFrom, siblings]
    exact .nil
  | cons child rest ih =>
    have hchild : n.children[i]? = some child := by
      rw [← List.head?_drop, hrest, List.head?_cons]
    have hlater : n.children.drop (i + 1) = rest := by
      rw [← List.tail_drop, hrest, List.tail_cons]
    by_cases hweight : child.weight = 0
    · rw [placesFrom_of_weightless hweight, siblings_of_weightless hweight]
      exact ih _ _ hlater
    · rw [placesFrom_of_weight hweight, siblings_of_weight hweight]
      refine List.rel_append ?_ (ih _ _ hlater)
      refine List.forall₂_map_left_iff.mpr ?_
      exact (h child (List.mem_of_getElem? hchild) _ _).imp fun _ _ hat => hat.of_child hchild

/-- **The frames of a tree go over its places.** -/
theorem frames_at (n : FlameNode) (depth : Nat) (start width : α) :
    List.Forall₂ (At n depth) n.places (frames weight depth start width n) := by
  induction n using induct generalizing depth start width with
  | h n ih =>
    rw [places_eq, frames_eq]
    exact .cons ⟨rfl, rfl⟩
      (siblings_at (fun child hchild => ih child hchild (depth + 1)) 0 n.weight width start)

/-- **A layout shows what weighs something, once.** Its frames go, one by one, over the places of the
nodes that weigh something, which are in order and each there once, and a frame's depth is its distance
from the root, less than that of the whole tree. What weighs something is what has a value reported for it
or below it. So a node with a value is shown with everything above it, and nothing is shown only if no
value has been reported. -/
theorem layout_places (root : FlameNode) :
    ∃ shown : List (List Nat),
      shown.Pairwise (· < ·) ∧
      (∀ place, place ∈ shown ↔ ∃ n, root.at? place = some n ∧ 0 < n.weight) ∧
      List.Forall₂
        (fun place f => root.at? place = some f.node ∧ f.depth = place.length ∧ f.depth < root.depth)
        shown (layout root : List (Frame α)) ∧
      (∀ n : FlameNode, 0 < n.weight ↔ ∃ place m, n.at? place = some m ∧ 0 < m.value) ∧
      (∀ place n, root.at? place = some n → 0 < n.value → ∀ above, above <+: place → above ∈ shown) ∧
      ((layout root : List (Frame α)) = [] ↔ ∀ place n, root.at? place = some n → n.value = 0) := by
  have hreported := root.weight_pos_iff
  suffices h : ∃ shown : List (List Nat), shown.Pairwise (· < ·) ∧
      (∀ place, place ∈ shown ↔ ∃ n, root.at? place = some n ∧ 0 < n.weight) ∧
      List.Forall₂ (At root 0) shown (layout root : List (Frame α)) ∧
      ((layout root : List (Frame α)) = [] ↔ root.weight = 0) by
    obtain ⟨shown, horder, hmem, hframes, hempty⟩ := h
    refine ⟨shown, horder, hmem, ?_, weight_pos_iff, ?_, ?_⟩
    · refine hframes.imp fun place f ⟨hnode, hdepth⟩ => ?_
      rw [Nat.zero_add] at hdepth
      exact ⟨hnode, hdepth, hdepth ▸ length_lt_depth hnode⟩
    · rintro place n hplace hvalue above ⟨below, rfl⟩
      rw [at?_append] at hplace
      obtain ⟨m, hm, hbelow⟩ := Option.bind_eq_some_iff.mp hplace
      exact (hmem above).mpr ⟨m, hm, weight_pos_of_at? hbelow (weight_pos_of_value hvalue)⟩
    · rw [hempty, ← Nat.le_zero, ← Nat.not_lt, hreported]
      simp only [not_exists, not_and, UInt64.not_lt, UInt64.le_zero_iff]
  by_cases hroot : 0 < root.weight
  · refine ⟨root.places, root.pairwise_places, fun place => mem_places hroot, ?_⟩
    rw [layout, layoutBy, if_pos hroot]
    refine ⟨frames_at root 0 _ _, iff_of_false ?_ hroot.ne'⟩
    rw [frames_eq]
    exact List.cons_ne_nil _ _
  · rw [layout, layoutBy, if_neg hroot]
    refine ⟨[], .nil, fun place => iff_of_false List.not_mem_nil ?_, .nil,
      iff_of_true rfl (Nat.eq_zero_of_not_pos hroot)⟩
    rintro ⟨n, hplace, hweight⟩
    exact hroot (weight_pos_of_at? hplace hweight)

end Flame

end ProfileBrowser
