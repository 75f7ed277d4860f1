import Mathlib.Algebra.Order.Field.Basic
import Mathlib.Data.Rat.Cast.Order
import Mathlib.Tactic.Linarith
import Mathlib.Tactic.Positivity
import Mathlib.Tactic.Ring
import ProfileBrowser.Proofs.Frames
/-!
# Where the frames of a layout stand

With exact rationals for numbers, a node's frame is a stretch of the line that can be told from the node's
place alone: on the way down to it each child takes, behind the children before it, its share of its
parent's stretch (`FlameNode.stretch`), and the layout is the list of these frames (`Flame.layout_eq_map`).
So frames are in proportion to the weights (`Flame.Proportional`).

The shares of a node's children fit into its stretch if the node weighs no less than its children do
together (`FlameNode.Covering`). Then frames lie in those above them. Two places of one length part at some
node, into two of its children, and so do their frames: those of one depth are side by side
(`Flame.Nested`).
-/

namespace ProfileBrowser

/-! ### Stretches of the line -/

namespace Flame

/-- A stretch of the line. -/
structure Stretch where
  start : ℚ
  width : ℚ

namespace Stretch

/-- The whole line. -/
def whole : Stretch := ⟨0, 1⟩

/-- Where a stretch ends. -/
def stop (s : Stretch) : ℚ := s.start + s.width

/-- The part of a stretch that belongs to `weight` out of `total`, behind what belongs to `before`. -/
def part (s : Stretch) (total before weight : Nat) : Stretch :=
  ⟨s.start + s.width * (before / total), s.width * (weight / total)⟩

/-- Whether a stretch lies in another one. -/
def Inside (s t : Stretch) : Prop := t.start ≤ s.start ∧ s.stop ≤ t.stop

variable {s t u : Stretch} {total before weight : Nat}

theorem stop_whole : whole.stop = 1 := zero_add 1

theorem Inside.refl (s : Stretch) : s.Inside s := ⟨le_rfl, le_rfl⟩

theorem Inside.trans (h : s.Inside t) (h' : t.Inside u) : s.Inside u :=
  ⟨h'.1.trans h.1, h.2.trans h'.2⟩

/-- A part ends where the next one starts. -/
theorem stop_part (s : Stretch) (total before weight : Nat) :
    (s.part total before weight).stop = s.start + s.width * ((before + weight : Nat) / total) := by
  simp only [stop, part]
  push_cast
  ring

theorem width_part_nonneg (hs : 0 ≤ s.width) : 0 ≤ (s.part total before weight).width := by
  simp only [part]
  positivity

/-- **The parts of no more than the whole lie in it.** -/
theorem part_inside (hs : 0 ≤ s.width) (h : before + weight ≤ total) :
    (s.part total before weight).Inside s := by
  constructor
  · have hshare : 0 ≤ s.width * (before / total : ℚ) := by positivity
    simp only [part]
    linarith
  · rw [stop_part]
    have hshare : ((before + weight : Nat) / total : ℚ) ≤ 1 :=
      div_le_one_of_le₀ (by exact_mod_cast h) (by positivity)
    have hpart := mul_le_mul_of_nonneg_left hshare hs
    simp only [stop]
    linarith

/-- **A part ends before those that come later.** -/
theorem stop_part_le (hs : 0 ≤ s.width) {later weight' : Nat} (h : before + weight ≤ later) :
    (s.part total before weight).stop ≤ (s.part total later weight').start := by
  rw [stop_part]
  have hshare : ((before + weight : Nat) / total : ℚ) ≤ later / total := by gcongr
  have hpart := mul_le_mul_of_nonneg_left hshare hs
  simp only [part]
  linarith

/-- Stretches side by side in a longer one are together no wider than it. -/
theorem sum_width_le (stretches : List Stretch) {a b : ℚ} (hab : a ≤ b)
    (hinside : ∀ s ∈ stretches, a ≤ s.start ∧ s.stop ≤ b)
    (hwidth : ∀ s ∈ stretches, 0 ≤ s.width)
    (horder : stretches.Pairwise fun s t => s.stop ≤ t.start) : (stretches.map Stretch.width).sum ≤ b - a := by
  induction stretches generalizing a with
  | nil => simpa using hab
  | cons s rest ih =>
    obtain ⟨hfirst, hrest⟩ := List.pairwise_cons.mp horder
    obtain ⟨hstart, hstop⟩ := hinside s List.mem_cons_self
    have hlater : (rest.map Stretch.width).sum ≤ b - s.stop := by
      refine ih hstop (fun t ht => ⟨hfirst t ht, (hinside t (List.mem_cons_of_mem _ ht)).2⟩) ?_ hrest
      exact fun t ht => hwidth t (List.mem_cons_of_mem _ ht)
    rw [List.map_cons, List.sum_cons]
    simp only [stop] at hlater
    linarith

end Stretch

end Flame

/-! ### The stretch of a place -/

namespace FlameNode

open Flame (Stretch)

theorem weights_eq_sum (ns : List FlameNode) : weights ns = (ns.map weight).sum := by
  induction ns with
  | nil => rfl
  | cons n rest ih => rw [weights, ih, List.map_cons, List.sum_cons]

/-- What the children before the `i`-th one weigh. -/
def weightBefore (n : FlameNode) (i : Nat) : Nat := weights (n.children.take i)

variable {n m child : FlameNode} {i j : Nat} {place : List Nat}

theorem weightBefore_zero (n : FlameNode) : n.weightBefore 0 = 0 := rfl

theorem weightBefore_succ (h : n.children[i]? = some child) :
    n.weightBefore (i + 1) = n.weightBefore i + child.weight := by
  simp [weightBefore, weights_eq_sum, List.take_add_one, h]

theorem weightBefore_succ_of_none (h : n.children[i]? = none) :
    n.weightBefore (i + 1) = n.weightBefore i := by
  simp [weightBefore, List.take_add_one, h]

theorem weightBefore_mono (n : FlameNode) : Monotone n.weightBefore := by
  refine monotone_nat_of_le_succ fun i => ?_
  cases h : n.children[i]? with
  | none => exact (weightBefore_succ_of_none h).ge
  | some child =>
    rw [weightBefore_succ h]
    exact Nat.le_add_right _ _

/-- What weighs nothing adds nothing. -/
theorem weightBefore_eq (hij : i ≤ j)
    (h : ∀ k child, i ≤ k → k < j → n.children[k]? = some child → child.weight = 0) :
    n.weightBefore j = n.weightBefore i := by
  induction j, hij using Nat.le_induction with
  | base => rfl
  | succ j hij ih =>
    have hbefore := ih fun k child hk hkj => h k child hk (Nat.lt_succ_of_lt hkj)
    cases hchild : n.children[j]? with
    | none => rw [weightBefore_succ_of_none hchild, hbefore]
    | some child =>
      rw [weightBefore_succ hchild, hbefore, h j child hij (Nat.lt_succ_self j) hchild, add_zero]

theorem weightBefore_le (n : FlameNode) (i : Nat) : n.weightBefore i ≤ weights n.children := by
  have hall : n.weightBefore n.children.length = weights n.children := by
    rw [weightBefore, List.take_length]
  rcases Nat.le_total i n.children.length with h | h
  · exact hall ▸ n.weightBefore_mono h
  · rw [weightBefore, List.take_of_length_le h]

/-- The stretch of a place below a node that has the stretch `s`. -/
def stretch (n : FlameNode) (s : Stretch) : List Nat → Stretch
  | [] => s
  | i :: place =>
    match n.children[i]? with
    | some child => child.stretch (s.part n.weight (n.weightBefore i) child.weight) place
    | none => s

theorem stretch_of_child (h : n.children[i]? = some child) (s : Stretch) (place : List Nat) :
    n.stretch s (i :: place) = child.stretch (s.part n.weight (n.weightBefore i) child.weight) place := by
  rw [stretch, h]

/-- The stretch of a place in two steps. -/
theorem stretch_append (h : n.at? place = some m) (s : Stretch) (below : List Nat) :
    n.stretch s (place ++ below) = m.stretch (n.stretch s place) below := by
  induction place generalizing n s with
  | nil =>
    obtain rfl : n = m := Option.some.inj h
    rfl
  | cons i place ih =>
    obtain ⟨child, hchild, hplace⟩ := at?_cons_eq_some.mp h
    rw [List.cons_append, stretch_of_child hchild, stretch_of_child hchild, ih hplace]

/-! ### Nodes that cover their children -/

/-- No node's children weigh more in total than the node itself. -/
def Covering (n : FlameNode) : Prop :=
  ∀ place m, n.at? place = some m → weights m.children ≤ m.weight

theorem Covering.at? (h : n.Covering) (hm : n.at? place = some m) : m.Covering := by
  intro below k hk
  refine h (place ++ below) k ?_
  rw [at?_append, hm, Option.bind_some, hk]

/-- It is enough to look at the node and at each of its children. -/
theorem covering_mk {id value : UInt64} {name : String} {children : List FlameNode} :
    (mk id name value children).Covering ↔
      weights children ≤ (mk id name value children).weight ∧ ∀ child ∈ children, child.Covering := by
  constructor
  · intro h
    refine ⟨h [] _ rfl, fun child hchild => ?_⟩
    obtain ⟨i, hi⟩ := List.mem_iff_getElem?.mp hchild
    exact h.at? (at?_of_child hi [])
  · rintro ⟨hn, hchildren⟩ place m hm
    cases place with
    | nil =>
      obtain rfl := Option.some.inj hm
      exact hn
    | cons i place =>
      obtain ⟨child, hchild, hplace⟩ := at?_cons_eq_some.mp hm
      exact hchildren child (List.mem_of_getElem? hchild) place m hplace

theorem Covering.weightBefore_add_le (h : n.Covering) (hchild : n.children[i]? = some child) :
    n.weightBefore i + child.weight ≤ n.weight := by
  rw [← weightBefore_succ hchild]
  exact (n.weightBefore_le _).trans (h [] n rfl)

/-- **What is below a node has its stretch in that of the node.** -/
theorem Covering.stretch_inside (h : n.Covering) {s : Stretch} (hs : 0 ≤ s.width) (place : List Nat) :
    (n.stretch s place).Inside s ∧ 0 ≤ (n.stretch s place).width := by
  induction place generalizing n s with
  | nil => exact ⟨.refl s, hs⟩
  | cons i place ih =>
    cases hchild : n.children[i]? with
    | none =>
      rw [stretch, hchild]
      exact ⟨.refl s, hs⟩
    | some child =>
      rw [stretch_of_child hchild]
      have hcovering : child.Covering := h.at? (at?_of_child hchild [])
      obtain ⟨hinside, hwidth⟩ := ih hcovering (Stretch.width_part_nonneg hs)
      exact ⟨hinside.trans (Stretch.part_inside hs (h.weightBefore_add_le hchild)), hwidth⟩

/-- What is below a child has its stretch in the child's part. -/
theorem Covering.stretch_inside_part (h : n.Covering) {s : Stretch} (hs : 0 ≤ s.width)
    (hchild : n.children[i]? = some child) (below : List Nat) :
    (n.stretch s (i :: below)).Inside (s.part n.weight (n.weightBefore i) child.weight) := by
  rw [stretch_of_child hchild]
  exact ((h.at? (at?_of_child hchild [])).stretch_inside (Stretch.width_part_nonneg hs) below).1

/-- Two places of one length part into two children of some node. -/
theorem exists_branch {p q : List Nat} (hlt : p < q) (hlength : p.length = q.length) :
    ∃ above i j below below', p = above ++ i :: below ∧ q = above ++ j :: below' ∧ i < j := by
  induction p generalizing q with
  | nil =>
    obtain rfl : q = [] := List.length_eq_zero_iff.mp hlength.symm
    exact absurd hlt (List.lt_irrefl _)
  | cons i p ih =>
    cases q with
    | nil => cases hlength
    | cons j q =>
      rcases List.cons_lt_cons_iff.mp hlt with hij | ⟨rfl, hrest⟩
      · exact ⟨[], i, j, p, q, rfl, rfl, hij⟩
      · obtain ⟨above, k, l, below, below', rfl, rfl, hkl⟩ := ih hrest (Nat.succ.inj hlength)
        exact ⟨i :: above, k, l, below, below', rfl, rfl, hkl⟩

/-- **Of two places of one length the earlier one ends before the later one starts.** -/
theorem Covering.stop_stretch_le (h : n.Covering) {s : Stretch} (hs : 0 ≤ s.width) {p q : List Nat}
    {a b : FlameNode} (hp : n.at? p = some a) (hq : n.at? q = some b) (hlt : p < q)
    (hlength : p.length = q.length) : (n.stretch s p).stop ≤ (n.stretch s q).start := by
  -- The places part below `m`, into parts of it of which the one ends before the other starts.
  obtain ⟨above, i, j, below, below', rfl, rfl, hij⟩ := exists_branch hlt hlength
  rw [at?_append] at hp hq
  obtain ⟨m, hm, hp⟩ := Option.bind_eq_some_iff.mp hp
  rw [hm, Option.bind_some] at hq
  obtain ⟨first, hfirst, -⟩ := at?_cons_eq_some.mp hp
  obtain ⟨later, hlater, -⟩ := at?_cons_eq_some.mp hq
  have hwidth : 0 ≤ (n.stretch s above).width := (h.stretch_inside hs above).2
  have hends := (h.at? hm).stretch_inside_part hwidth hfirst below
  have hstarts := (h.at? hm).stretch_inside_part hwidth hlater below'
  have horder : m.weightBefore i + first.weight ≤ m.weightBefore j := by
    rw [← weightBefore_succ hfirst]
    exact m.weightBefore_mono hij
  rw [stretch_append hm, stretch_append hm]
  exact hends.2.trans ((Stretch.stop_part_le hwidth horder).trans hstarts.1)

end FlameNode

/-! ### The frames of a layout -/

namespace Flame

open FlameNode

/-- The stretch of a frame. -/
def Frame.stretch (f : Frame ℚ) : Stretch := ⟨f.start, f.width⟩

/-- The frame of a place below a node that stands at a depth and has the stretch `s`. -/
def frameAt (n : FlameNode) (depth : Nat) (s : Stretch) (place : List Nat) : Frame ℚ :=
  ⟨(n.at? place).getD n, depth + place.length, (n.stretch s place).start, (n.stretch s place).width⟩

theorem stretch_frameAt (n : FlameNode) (depth : Nat) (s : Stretch) (place : List Nat) :
    (frameAt n depth s place).stretch = n.stretch s place := rfl

theorem frameAt_of_child {n child : FlameNode} {i : Nat} (h : n.children[i]? = some child) {depth : Nat}
    {s : Stretch} {place : List Nat} (hplace : (child.at? place).isSome) :
    frameAt n depth s (i :: place) =
      frameAt child (depth + 1) (s.part n.weight (n.weightBefore i) child.weight) place := by
  obtain ⟨m, hm⟩ := Option.isSome_iff_exists.mp hplace
  rw [frameAt, frameAt, at?_of_child h, stretch_of_child h, hm, List.length_cons]
  congr 1
  omega

/-- The frames of the children from the `i`-th one on. -/
theorem siblings_eq_map {n : FlameNode} {depth : Nat} {s : Stretch}
    (h : ∀ child ∈ n.children, ∀ s : Stretch,
      frames weight (depth + 1) s.start s.width child = child.places.map (frameAt child (depth + 1) s))
    (i : Nat) :
    siblings weight (depth + 1) n.weight s.width (s.start + s.width * (n.weightBefore i / n.weight))
        (n.children.drop i) =
      (placesFrom i (n.children.drop i)).map (frameAt n depth s) := by
  generalize hrest : n.children.drop i = rest
  induction rest generalizing i with
  | nil => rfl
  | cons child rest ih =>
    have hchild : n.children[i]? = some child := by
      rw [← List.head?_drop, hrest, List.head?_cons]
    have hlater : n.children.drop (i + 1) = rest := by
      rw [← List.tail_drop, hrest, List.tail_cons]
    have hnext := ih (i + 1) hlater
    rw [weightBefore_succ hchild] at hnext
    by_cases hweight : child.weight = 0
    · rw [placesFrom_of_weightless hweight, siblings_of_weightless hweight, ← hnext, hweight, add_zero]
    · have hoffset := s.stop_part n.weight (n.weightBefore i) child.weight
      rw [placesFrom_of_weight hweight, siblings_of_weight hweight, List.map_append, List.map_map, ← hnext]
      congr 1
      · have hfirst := h child (List.mem_of_getElem? hchild)
          (s.part n.weight (n.weightBefore i) child.weight)
        refine hfirst.trans (List.map_congr_left fun place hplace => ?_)
        obtain ⟨m, hm, -⟩ := (mem_places (Nat.pos_of_ne_zero hweight)).mp hplace
        exact (frameAt_of_child hchild (by rw [hm]; rfl)).symm
      · rw [← hoffset]
        rfl

/-- **The frames of a tree are those of its places.** -/
theorem frames_eq_map (n : FlameNode) (depth : Nat) (s : Stretch) :
    frames weight depth s.start s.width n = n.places.map (frameAt n depth s) := by
  induction n using induct generalizing depth s with
  | h n ih =>
    have hchildren := siblings_eq_map (s := s) (fun child hchild t => ih child hchild (depth + 1) t) 0
    rw [weightBefore_zero, Nat.cast_zero, zero_div, mul_zero, add_zero, List.drop_zero] at hchildren
    rw [places_eq, frames_eq, hchildren, List.map_cons]
    rfl

/-- The frame of a place in a layout. -/
def placed (root : FlameNode) (place : List Nat) : Frame ℚ := frameAt root 0 .whole place

variable {root : FlameNode}

theorem layout_eq_map (h : 0 < root.weight) : layout root = root.places.map (placed root) := by
  rw [layout, layoutBy, if_pos h, Nat.cast_zero, Nat.cast_one]
  exact frames_eq_map root 0 .whole

theorem node_placed {place : List Nat} {n : FlameNode} (h : root.at? place = some n) :
    (placed root place).node = n := by
  simp [placed, frameAt, h]

/-- The stretch of a child is its part of its parent's. -/
theorem stretch_placed_child {place : List Nat} {n child : FlameNode} {i : Nat} (h : root.at? place = some n)
    (hchild : n.children[i]? = some child) :
    (placed root (place ++ [i])).stretch =
      (placed root place).stretch.part n.weight (n.weightBefore i) child.weight := by
  rw [placed, stretch_frameAt, stretch_append h, stretch_of_child hchild]
  rfl

/-! ### In proportion -/

/-- **Frames in proportion to the weights**, where `frame` gives the frame of a place: the root takes the
whole line, and the children of a node that weigh something stand side by side from its start on, each as
wide in its frame as its share of the node's weight. -/
structure Proportional (root : FlameNode) (frame : List Nat → Frame ℚ) : Prop where
  start_root : (frame []).start = 0
  width_root : (frame []).width = 1
  above : ∀ place i, place ++ [i] ∈ root.places → place ∈ root.places
  width_child : ∀ place i, place ++ [i] ∈ root.places →
    (frame (place ++ [i])).width =
      (frame (place ++ [i])).node.weight / (frame place).node.weight * (frame place).width
  /-- No child before the `i`-th one weighs anything. -/
  start_first : ∀ place i, place ++ [i] ∈ root.places →
    (∀ k child, k < i → (frame place).node.children[k]? = some child → child.weight = 0) →
    (frame (place ++ [i])).start = (frame place).start
  /-- No child between the `i`-th and the `j`-th one weighs anything. -/
  start_next : ∀ place i j, place ++ [i] ∈ root.places → place ++ [j] ∈ root.places → i < j →
    (∀ k child, i < k → k < j → (frame place).node.children[k]? = some child → child.weight = 0) →
    (frame (place ++ [j])).start = (frame (place ++ [i])).start + (frame (place ++ [i])).width

/-- A place that is shown below another one is that of a child there. -/
theorem exists_child_of_mem_places (h : 0 < root.weight) {place : List Nat} {i : Nat}
    (hmem : place ++ [i] ∈ root.places) :
    ∃ n child, root.at? place = some n ∧ n.children[i]? = some child ∧ place ∈ root.places ∧
      root.at? (place ++ [i]) = some child := by
  obtain ⟨child, hat, hweight⟩ := (mem_places h).mp hmem
  have hparts := hat
  rw [at?_append] at hparts
  obtain ⟨n, hn, hbelow⟩ := Option.bind_eq_some_iff.mp hparts
  obtain ⟨c, hchild, hc⟩ := at?_cons_eq_some.mp hbelow
  obtain rfl : c = child := Option.some.inj hc
  have hpos : 0 < n.weight := weight_pos_of_child (List.mem_of_getElem? hchild) hweight
  exact ⟨n, c, hn, hchild, (mem_places h).mpr ⟨n, hn, hpos⟩, hat⟩

theorem proportional_placed (h : 0 < root.weight) : Proportional root (placed root) where
  start_root := rfl
  width_root := rfl
  above place i hmem := by
    obtain ⟨-, -, -, -, habove, -⟩ := exists_child_of_mem_places h hmem
    exact habove
  width_child place i hmem := by
    obtain ⟨n, child, hn, hchild, -, hat⟩ := exists_child_of_mem_places h hmem
    have hwidth := congrArg Stretch.width (stretch_placed_child hn hchild)
    rw [node_placed hn, node_placed hat, mul_comm]
    exact hwidth
  start_first place i hmem hnone := by
    obtain ⟨n, child, hn, hchild, -, -⟩ := exists_child_of_mem_places h hmem
    rw [node_placed hn] at hnone
    have hstart := congrArg Stretch.start (stretch_placed_child hn hchild)
    have hbefore : n.weightBefore i = n.weightBefore 0 :=
      weightBefore_eq (Nat.zero_le i) fun k c _ hk => hnone k c hk
    show (placed root (place ++ [i])).stretch.start = (placed root place).stretch.start
    rw [hstart, hbefore, weightBefore_zero]
    simp [Stretch.part]
  start_next place i j hi hj hij hnone := by
    obtain ⟨n, first, hn, hfirst, -, -⟩ := exists_child_of_mem_places h hi
    obtain ⟨n', next, hn', hnext, -, -⟩ := exists_child_of_mem_places h hj
    obtain rfl : n = n' := Option.some.inj (hn.symm.trans hn')
    rw [node_placed hn] at hnone
    have hbefore : n.weightBefore j = n.weightBefore i + first.weight := by
      rw [← weightBefore_succ hfirst]
      exact weightBefore_eq hij fun k c hk hkj => hnone k c hk hkj
    have hstart := congrArg Stretch.start (stretch_placed_child hn hnext)
    have hstop := congrArg Stretch.stop (stretch_placed_child hn hfirst)
    rw [Stretch.stop_part, ← hbefore] at hstop
    exact hstart.trans hstop.symm

/-! ### Side by side -/

/-- **Frames in each other and side by side**: every frame lies within the whole line and within that of its
parent, two frames of one depth have at most an edge in common, and together those of one depth are no
wider than the line. -/
structure Nested (root : FlameNode) (frame : List Nat → Frame ℚ) : Prop where
  inside : ∀ place ∈ root.places,
    0 ≤ (frame place).start ∧ (frame place).start + (frame place).width ≤ 1
  inside_parent : ∀ place i, place ++ [i] ∈ root.places →
    (frame place).start ≤ (frame (place ++ [i])).start ∧
      (frame (place ++ [i])).start + (frame (place ++ [i])).width ≤
        (frame place).start + (frame place).width
  apart : ∀ p ∈ root.places, ∀ q ∈ root.places, p ≠ q → (frame p).depth = (frame q).depth →
    (frame p).start + (frame p).width ≤ (frame q).start ∨
      (frame q).start + (frame q).width ≤ (frame p).start
  total : ∀ depth : Nat,
    (((layout root : List (Frame ℚ)).filter (·.depth = depth)).map Frame.width).sum ≤ 1

theorem depth_placed (root : FlameNode) (place : List Nat) : (placed root place).depth = place.length :=
  Nat.zero_add _

/-- A frame lies within the whole line. -/
theorem stretch_placed_inside (hroot : root.Covering) (place : List Nat) :
    (placed root place).stretch.Inside .whole ∧ 0 ≤ (placed root place).stretch.width :=
  hroot.stretch_inside zero_le_one place

/-- Of two frames of one depth the earlier one ends before the later one starts. -/
theorem stop_placed_le (h : 0 < root.weight) (hroot : root.Covering) {p q : List Nat}
    (hp : p ∈ root.places) (hq : q ∈ root.places) (hlt : p < q)
    (hdepth : (placed root p).depth = (placed root q).depth) :
    (placed root p).stretch.stop ≤ (placed root q).stretch.start := by
  obtain ⟨a, ha, -⟩ := (mem_places h).mp hp
  obtain ⟨b, hb, -⟩ := (mem_places h).mp hq
  rw [depth_placed, depth_placed] at hdepth
  exact hroot.stop_stretch_le zero_le_one ha hb hlt hdepth

/-- The frames of one depth are no wider than the whole line. -/
theorem sum_width_layout_le (h : 0 < root.weight) (hroot : root.Covering) (depth : Nat) :
    (((layout root : List (Frame ℚ)).filter (·.depth = depth)).map Frame.width).sum ≤ 1 := by
  have hframe : ∀ f ∈ (layout root : List (Frame ℚ)), f.stretch.Inside .whole ∧ 0 ≤ f.stretch.width := by
    rw [layout_eq_map h]
    exact List.forall_mem_map.mpr fun place _ => stretch_placed_inside hroot place
  have horder : (layout root : List (Frame ℚ)).Pairwise fun f g =>
      f.depth = g.depth → f.stretch.stop ≤ g.stretch.start := by
    rw [layout_eq_map h, List.pairwise_map]
    exact root.pairwise_places.imp_of_mem fun hp hq hlt => stop_placed_le h hroot hp hq hlt
  have hrow : ∀ f ∈ (layout root : List (Frame ℚ)).filter (·.depth = depth),
      f ∈ layout root ∧ f.depth = depth := by
    intro f hf
    simpa using List.mem_filter.mp hf
  have hsum := Stretch.sum_width_le
    (((layout root : List (Frame ℚ)).filter (·.depth = depth)).map Frame.stretch) zero_le_one
    ?_ ?_ ?_
  · rwa [List.map_map, sub_zero] at hsum
  · exact List.forall_mem_map.mpr fun f hf => Stretch.stop_whole ▸ (hframe f (hrow f hf).1).1
  · exact List.forall_mem_map.mpr fun f hf => (hframe f (hrow f hf).1).2
  · rw [List.pairwise_map]
    refine (horder.filter _).imp_of_mem fun hf hg hle => hle ?_
    rw [(hrow _ hf).2, (hrow _ hg).2]

theorem nested_placed (h : 0 < root.weight) (hroot : root.Covering) : Nested root (placed root) where
  inside place _ := by
    obtain ⟨hstart, hstop⟩ := (stretch_placed_inside hroot place).1
    exact ⟨hstart, Stretch.stop_whole ▸ hstop⟩
  inside_parent place i hmem := by
    obtain ⟨n, child, hn, hchild, -, -⟩ := exists_child_of_mem_places h hmem
    have hwidth := (stretch_placed_inside hroot place).2
    have hinside := Stretch.part_inside hwidth ((hroot.at? hn).weightBefore_add_le hchild)
    rw [← stretch_placed_child hn hchild] at hinside
    exact hinside
  apart p hp q hq hne hdepth := by
    rcases lt_or_gt_of_ne hne with hlt | hgt
    · exact .inl (stop_placed_le h hroot hp hq hlt hdepth)
    · exact .inr (stop_placed_le h hroot hq hp hgt hdepth.symm)
  total := sum_width_layout_le h hroot

/-- **Where the frames of a layout stand**, in exact arithmetic. For every tree that weighs something they
are in proportion to the weights; and if no node's children weigh more than the node itself, they lie in
each other and side by side. -/
theorem layout_proportional (root : FlameNode) (h : 0 < root.weight) :
    ∃ frame : List Nat → Frame ℚ,
      layout root = root.places.map frame ∧ root.places.Pairwise (· < ·) ∧
      (∀ place, place ∈ root.places ↔ ∃ n, root.at? place = some n ∧ 0 < n.weight) ∧
      (∀ place ∈ root.places,
        root.at? place = some (frame place).node ∧ (frame place).depth = place.length) ∧
      Proportional root frame ∧ (root.Covering → Nested root frame) := by
  refine ⟨placed root, layout_eq_map h, root.pairwise_places, fun place => mem_places h, ?_,
    proportional_placed h, nested_placed h⟩
  intro place hmem
  obtain ⟨n, hn, -⟩ := (mem_places h).mp hmem
  rw [node_placed hn]
  exact ⟨hn, depth_placed root place⟩

/-- A root without a value of its own, and below it two nodes that call others, with a node between them
that weighs nothing. -/
theorem layout_proportional_three_deep :
    let root : FlameNode := .mk 0 "all" 0
      [.mk 1 "main" 30 [.mk 2 "read" 20 [], .mk 3 "idle" 0 [], .mk 4 "parse" 10 []],
        .mk 5 "stop" 0 [], .mk 6 "draw" 10 [.mk 7 "fill" 4 []]]
    (0 < root.weight ∧ root.Covering) ∧
      ∃ frame : List Nat → Frame ℚ,
        layout root = root.places.map frame ∧ Proportional root frame ∧ Nested root frame := by
  intro root
  have hweight : 0 < root.weight := by decide
  have hcovering : root.Covering := by
    simp [root, covering_mk, weights, weight]
  obtain ⟨frame, hframes, -, -, -, hproportional, hnested⟩ := layout_proportional root hweight
  exact ⟨⟨hweight, hcovering⟩, frame, hframes, hproportional, hnested hcovering⟩

end Flame

end ProfileBrowser
