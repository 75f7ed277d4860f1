/-!
# Sets of characters

A character property of the Unicode standard as the list of the code point ranges that have it, in
increasing order, with both ends belonging to the range.
-/

namespace ProfileBrowser.Text

/-- Inclusive ranges of code points, in increasing order. -/
abbrev Ranges := List (Nat × Nat)

/-- Whether a code point lies in one of the ranges. The ranges ascend, so the search stops at the
first one that ends at or after the code point. -/
def Ranges.hold : Ranges → Nat → Bool
  | [], _ => false
  | (first, last) :: more, n => if n ≤ last then decide (first ≤ n) else Ranges.hold more n

end ProfileBrowser.Text
