import ProfileBrowser.Profile.Diagrams
/-!
# Layout of a flame graph

The tree as frames on rows: the root on top, and below each frame its children side by side, each as
wide in its parent as its share of the parent's weight. The arithmetic is a parameter: the screen
and the image use binary64 numbers, and exact rationals are the measure of them. So are the weights,
which a machine adds up in words.
-/

namespace ProfileBrowser.Flame

/-- A placed node; `start` and `width` are fractions of the root. -/
structure Frame (α : Type) where
  node : FlameNode
  depth : Nat
  start : α
  width : α

variable {α : Type} [Add α] [Mul α] [Div α] [NatCast α] (weigh : FlameNode → Nat)

mutual
/-- The frames of a subtree, parents before children. -/
def frames (depth : Nat) (start width : α) : FlameNode → List (Frame α)
  | .mk id name value children =>
    let node := FlameNode.mk id name value children
    ⟨node, depth, start, width⟩ :: siblings (depth + 1) (weigh node) width start children

/-- The frames of the children of a node of weight `total`, from `offset` on; what weighs nothing is
left out. -/
def siblings (depth total : Nat) (width offset : α) : List FlameNode → List (Frame α)
  | [] => []
  | child :: rest =>
    if weigh child = 0 then siblings depth total width offset rest
    else
      let share := width * ((weigh child : α) / (total : α))
      frames depth offset share child ++ siblings depth total width (offset + share) rest
end

/-- The frames of a tree whose nodes are weighed; none if it weighs nothing. -/
def layoutBy (root : FlameNode) : List (Frame α) :=
  if 0 < weigh root then frames weigh 0 ((0 : Nat) : α) ((1 : Nat) : α) root else []

/-- The frames of a tree. -/
def layout (root : FlameNode) : List (Frame α) := layoutBy FlameNode.weight root

end ProfileBrowser.Flame
