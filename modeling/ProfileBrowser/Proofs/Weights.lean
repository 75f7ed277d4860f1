import ProfileBrowser.Proofs.Frames
/-!
# Weights in words

A machine adds up weights in words of 64 bits. A sum that is no word starts again at 0 or stops the program,
as the program was built (`FlameNode.Overflow`), so a machine makes of a weight what it makes of the exact sum
at once (`FlameNode.weightIn_eq`). No sum stops it exactly if every weight in the tree is a word
(`FlameNode.inWords_iff`); then its weights are those of the tree, whichever way it was built, and its
layout is that of the tree (`Flame.layoutBy_weighIn`).
-/

namespace ProfileBrowser

namespace FlameNode

variable {n : FlameNode}

/-! ### Sums of words -/

/-- What becomes of a sum that is no word. -/
inductive Overflow where
  /-- It starts again at 0. -/
  | wraps
  /-- It stops the program. -/
  | stops
deriving DecidableEq, Repr

namespace Overflow

/-- The sum of two words of 64 bits, if the program goes on after it. -/
def add : Overflow → UInt64 → UInt64 → Option UInt64
  | wraps, a, b => some (a + b)
  | stops, a, b => if a.toNat + b.toNat ≤ Word.greatest then some (a + b) else none

/-- What is made of an amount at once. -/
def word? : Overflow → Nat → Option UInt64
  | wraps, amount => some (UInt64.ofNat amount)
  | stops, amount => if amount ≤ Word.greatest then some (UInt64.ofNat amount) else none

theorem word?_of_le (o : Overflow) {amount : Nat} (h : amount ≤ Word.greatest) :
    o.word? amount = some (UInt64.ofNat amount) := by
  cases o with
  | wraps => rfl
  | stops => exact if_pos h

theorem toNat_ofNat {amount : Nat} (h : amount ≤ Word.greatest) : (UInt64.ofNat amount).toNat = amount :=
  UInt64.toNat_ofNat_of_lt' (Nat.lt_succ_of_le h)

/-- **A sum of words** is made of the exact sum. -/
theorem add_word? (o : Overflow) (a b : Nat) :
    ((o.word? a).bind fun x => (o.word? b).bind fun y => o.add x y) = o.word? (a + b) := by
  cases o with
  | wraps => exact congrArg some (UInt64.ofNat_add a b).symm
  | stops =>
    by_cases hsum : a + b ≤ Word.greatest
    · have ha : a ≤ Word.greatest := by omega
      have hb : b ≤ Word.greatest := by omega
      rw [word?_of_le _ ha, word?_of_le _ hb, word?_of_le _ hsum, UInt64.ofNat_add]
      refine if_pos ?_
      rwa [toNat_ofNat ha, toNat_ofNat hb]
    · rw [word?, word?, word?, if_neg hsum]
      split_ifs with ha hb
      · refine if_neg ?_
        rwa [toNat_ofNat ha, toNat_ofNat hb]
      all_goals rfl

end Overflow

mutual
/-- `weight` in words of 64 bits. -/
def weightIn (o : Overflow) : FlameNode → Option UInt64
  | mk _ _ value children => if 0 < value then some value else weightsIn o children

/-- `weights` in words of 64 bits. -/
def weightsIn (o : Overflow) : List FlameNode → Option UInt64
  | [] => some 0
  | n :: rest => do o.add (← weightIn o n) (← weightsIn o rest)
end

theorem weightsIn_eq (o : Overflow) {ns : List FlameNode} (h : ∀ n ∈ ns, n.weightIn o = o.word? n.weight) :
    weightsIn o ns = o.word? (weights ns) := by
  induction ns with
  | nil => exact (o.word?_of_le (Nat.zero_le _)).symm
  | cons n rest ih =>
    obtain ⟨hn, hrest⟩ := List.forall_mem_cons.mp h
    rw [weightsIn, hn, ih hrest, weights]
    exact o.add_word? n.weight (weights rest)

/-- **The weight of a machine** is made of the exact one. -/
theorem weightIn_eq (o : Overflow) (n : FlameNode) : n.weightIn o = o.word? n.weight := by
  induction n using induct with
  | h n ih =>
    have hstep : n.weightIn o = if 0 < n.value then some n.value else weightsIn o n.children := by
      cases n
      rw [weightIn]
      rfl
    rw [hstep, weight_eq]
    split_ifs with hvalue
    · have hword : n.value.toNat ≤ Word.greatest := Nat.le_of_lt_succ n.value.toNat_lt
      rw [o.word?_of_le hword, UInt64.ofNat_toNat]
    · exact weightsIn_eq o ih

/-! ### Trees in words -/

/-- Every weight in a tree is a word. -/
def InWords (root : FlameNode) : Prop := ∀ place n, root.at? place = some n → n.weight ≤ Word.greatest

/-- **No sum stops a program** exactly if every weight in the tree is a word. -/
theorem inWords_iff {root : FlameNode} :
    root.InWords ↔ ∀ place n, root.at? place = some n → (n.weightIn .stops).isSome := by
  have hword (n : FlameNode) : (n.weightIn .stops).isSome ↔ n.weight ≤ Word.greatest := by
    rw [weightIn_eq, Overflow.word?]
    split_ifs with h
    · exact iff_of_true rfl h
    · exact iff_of_false nofun h
  simp only [InWords, hword]

/-- What is below a child is below the node. -/
theorem exists_at?_of_child {child : FlameNode} (h : child ∈ n.children) :
    ∃ i, ∀ place, n.at? (i :: place) = child.at? place := by
  obtain ⟨i, hi⟩ := List.mem_iff_getElem?.mp h
  exact ⟨i, at?_of_child hi⟩

/-- What holds of all nodes of a tree holds of those below a child. -/
theorem forall_below {p : FlameNode → Prop} (h : ∀ place m, n.at? place = some m → p m) {child : FlameNode}
    (hchild : child ∈ n.children) : ∀ place m, child.at? place = some m → p m := by
  intro place m hplace
  obtain ⟨i, hbelow⟩ := exists_at?_of_child hchild
  exact h (i :: place) m ((hbelow place).trans hplace)

theorem inWords_mk {id value : UInt64} {name : String} {children : List FlameNode} :
    (mk id name value children).InWords ↔
      (mk id name value children).weight ≤ Word.greatest ∧ ∀ child ∈ children, child.InWords := by
  constructor
  · exact fun h => ⟨h [] _ rfl, fun child hchild => forall_below h hchild⟩
  · rintro ⟨hroot, hchildren⟩ place m hplace
    cases place with
    | nil => exact Option.some.inj hplace ▸ hroot
    | cons i place =>
      obtain ⟨child, hchild, hbelow⟩ := at?_cons_eq_some.mp hplace
      exact hchildren child (List.mem_of_getElem? hchild) place m hbelow

/-- What a program weighs a node with; 0 where it stops. -/
def weighIn (o : Overflow) (n : FlameNode) : Nat := ((n.weightIn o).getD 0).toNat

theorem weighIn_eq (o : Overflow) (h : n.weight ≤ Word.greatest) : n.weighIn o = n.weight := by
  rw [weighIn, weightIn_eq, o.word?_of_le h]
  exact Overflow.toNat_ofNat h

end FlameNode

/-! ### Layouts -/

namespace Flame

open FlameNode

variable {α : Type} [Add α] [Mul α] [Div α] [NatCast α] {weigh weigh' : FlameNode → Nat} {f : Frame α}

/-- What is shown of the children is shown of one of them. -/
theorem mem_siblings {depth total : Nat} {width offset : α} {ns : List FlameNode}
    (h : f ∈ siblings weigh depth total width offset ns) :
    ∃ child ∈ ns, ∃ start width, f ∈ frames weigh depth start width child := by
  induction ns generalizing offset with
  | nil =>
    rw [siblings] at h
    cases h
  | cons child rest ih =>
    have hlater : ∀ {offset : α}, f ∈ siblings weigh depth total width offset rest →
        ∃ c ∈ child :: rest, ∃ start width, f ∈ frames weigh depth start width c := by
      intro offset h
      obtain ⟨c, hc, hframe⟩ := ih h
      exact ⟨c, List.mem_cons_of_mem _ hc, hframe⟩
    by_cases hweight : weigh child = 0
    · rw [siblings_of_weightless hweight] at h
      exact hlater h
    · rw [siblings_of_weight hweight, List.mem_append] at h
      rcases h with h | h
      · exact ⟨child, List.mem_cons_self, _, _, h⟩
      · exact hlater h

theorem exists_at?_of_mem_frames {n : FlameNode} {depth : Nat} {start width : α}
    (h : f ∈ frames weigh depth start width n) : ∃ place, n.at? place = some f.node := by
  induction n using induct generalizing depth start width with
  | h n ih =>
    rw [frames_eq] at h
    rcases List.mem_cons.mp h with rfl | h
    · exact ⟨[], rfl⟩
    · obtain ⟨child, hchild, start, width, hframe⟩ := mem_siblings h
      obtain ⟨place, hplace⟩ := ih child hchild hframe
      obtain ⟨i, hbelow⟩ := exists_at?_of_child hchild
      exact ⟨i :: place, (hbelow place).trans hplace⟩

/-- **A layout shows nodes of its tree.** -/
theorem exists_at?_of_mem_layoutBy {root : FlameNode} (h : f ∈ layoutBy weigh root) :
    ∃ place, root.at? place = some f.node := by
  rw [layoutBy] at h
  split_ifs at h
  · exact exists_at?_of_mem_frames h
  · cases h

theorem siblings_congr {ns : List FlameNode} {depth : Nat}
    (hweigh : ∀ n ∈ ns, weigh n = weigh' n)
    (hframes : ∀ n ∈ ns, ∀ start width : α,
      frames weigh depth start width n = frames weigh' depth start width n)
    (total : Nat) (width offset : α) :
    siblings weigh depth total width offset ns = siblings weigh' depth total width offset ns := by
  induction ns generalizing offset with
  | nil => rw [siblings, siblings]
  | cons n rest ih =>
    obtain ⟨hn, hrest⟩ := List.forall_mem_cons.mp hweigh
    obtain ⟨hfirst, hlater⟩ := List.forall_mem_cons.mp hframes
    simp only [siblings, hn, hfirst, ih hrest hlater]

theorem frames_congr {n : FlameNode} (h : ∀ place m, n.at? place = some m → weigh m = weigh' m) (depth : Nat)
    (start width : α) : frames weigh depth start width n = frames weigh' depth start width n := by
  induction n using induct generalizing depth start width with
  | h n ih =>
    have hchild : ∀ child ∈ n.children, ∀ place m, child.at? place = some m → weigh m = weigh' m :=
      fun _ hmem => forall_below h hmem
    rw [frames_eq, frames_eq, h [] n rfl]
    congr 1
    exact siblings_congr (fun child hmem => hchild child hmem [] child rfl)
      (fun child hmem => ih child hmem (hchild child hmem) (depth + 1)) _ _ _

/-- **A layout goes by the weights in its tree.** -/
theorem layoutBy_congr {root : FlameNode} (h : ∀ place n, root.at? place = some n → weigh n = weigh' n) :
    (layoutBy weigh root : List (Frame α)) = layoutBy weigh' root := by
  rw [layoutBy, layoutBy, h [] root rfl, frames_congr h]

/-- **The layout of a machine**, while every weight is a word. -/
theorem layoutBy_weighIn (o : Overflow) {root : FlameNode} (h : root.InWords) :
    (layoutBy (weighIn o) root : List (Frame α)) = layout root :=
  layoutBy_congr fun place n hplace => weighIn_eq o (h place n hplace)

end Flame

end ProfileBrowser
