import ProfileBrowser.Text.Grapheme.Table
/-!
# Grapheme clusters

The pieces of a text that a reader takes for one character each: a base with its marks, a Hangul
syllable, a pair of regional indicators, a chain of joined pictographs. The rules are those of the
extended clusters of the Unicode standard; `clusters` cuts a text.
-/

namespace ProfileBrowser.Text

/-! ### Classes -/

/-- What a character is for the cutting rules. -/
inductive BreakClass where
  | carriageReturn | lineFeed | control
  | extend | joiner | spacing | prepend
  | regional | pictograph
  | hangulL | hangulV | hangulT | hangulLV | hangulLVT
  | other
deriving DecidableEq, Repr, Inhabited

/-- The zero-width joiner. -/
def joinerCode : Nat := 0x200D

/-- The zero-width mark that keeps letters apart. -/
def nonJoinerCode : Nat := 0x200C

/-- The class of a character. -/
def breakClass (c : Char) : BreakClass :=
  let n := c.toNat
  if n = 0xD then .carriageReturn
  else if n = 0xA then .lineFeed
  else if 0x20 ≤ n ∧ n < 0x7F then .other
  else if n = joinerCode then .joiner
  else if graphemeExtend.hold n || (0x1F3FB ≤ n && n ≤ 0x1F3FF) then .extend
  else if graphemeControls.hold n then .control
  else if 0x1F1E6 ≤ n ∧ n ≤ 0x1F1FF then .regional
  else if pictographs.hold n then .pictograph
  else if 0xAC00 ≤ n ∧ n ≤ 0xD7A3 then if (n - 0xAC00) % 28 = 0 then .hangulLV else .hangulLVT
  else if (0x1100 ≤ n && n ≤ 0x115F) || (0xA960 ≤ n && n ≤ 0xA97C) then .hangulL
  else if (0x1160 ≤ n && n ≤ 0x11A7) || (0xD7B0 ≤ n && n ≤ 0xD7C6) then .hangulV
  else if n = 0x16D63 || (0x16D67 ≤ n && n ≤ 0x16D6A) then .hangulV
  else if (0x11A8 ≤ n && n ≤ 0x11FF) || (0xD7CB ≤ n && n ≤ 0xD7FB) then .hangulT
  else if spacingMarks.hold n then .spacing
  else if prepended.hold n then .prepend
  else .other

/-! ### Cutting -/

/-- What the rules need to know of the cluster so far. -/
structure ClusterState where
  last : BreakClass
  /-- A pictograph followed by nothing but marks and joiners. -/
  afterPictograph : Bool
  /-- An odd number of regional indicators at the end. -/
  oddRegionals : Bool
  /-- A conjunct consonant followed by nothing but marks. -/
  afterConsonant : Bool
  /-- One of those marks is a virama. -/
  linked : Bool
deriving Inhabited

/-- The state after a character. -/
def ClusterState.next (s : ClusterState) (c : Char) : ClusterState :=
  let k := breakClass c
  let mark := k = .extend || k = .joiner
  let tied := mark && c.toNat ≠ nonJoinerCode && s.afterConsonant
  let consonant := conjunctConsonants.hold c.toNat
  { last := k
    afterPictograph := k = .pictograph || (mark && s.afterPictograph)
    oddRegionals := k = .regional && !s.oddRegionals
    afterConsonant := consonant || tied
    linked := !consonant && tied && (s.linked || conjunctLinkers.contains c.toNat) }

/-- Before any character. -/
def ClusterState.start : ClusterState := ⟨.control, false, false, false, false⟩

/-- Whether a character of class `k` belongs to the cluster so far. -/
def ClusterState.takes (s : ClusterState) (c : Char) : Bool :=
  let k := breakClass c
  match s.last, k with
  | .carriageReturn, .lineFeed => true
  | .carriageReturn, _ | .lineFeed, _ | .control, _ => false
  | _, .carriageReturn | _, .lineFeed | _, .control => false
  | .hangulL, .hangulL | .hangulL, .hangulV | .hangulL, .hangulLV | .hangulL, .hangulLVT => true
  | .hangulLV, .hangulV | .hangulLV, .hangulT | .hangulV, .hangulV | .hangulV, .hangulT => true
  | .hangulLVT, .hangulT | .hangulT, .hangulT => true
  | _, .extend | _, .joiner | _, .spacing => true
  | .prepend, _ => true
  | .joiner, .pictograph => s.afterPictograph
  | .regional, .regional => s.oddRegionals
  | _, _ => s.afterConsonant && s.linked && conjunctConsonants.hold c.toNat

/-- Cuts the rest of a text, given the cluster so far, its last character first. -/
def clustersFrom (s : ClusterState) (cluster : List Char) : List Char → List (List Char)
  | [] => if cluster.isEmpty then [] else [cluster.reverse]
  | c :: rest =>
    if cluster.isEmpty then clustersFrom (ClusterState.start.next c) [c] rest
    else if s.takes c then clustersFrom (s.next c) (c :: cluster) rest
    else cluster.reverse :: clustersFrom (ClusterState.start.next c) [c] rest

/-- The grapheme clusters of a text. -/
def clusters (cs : List Char) : List (List Char) := clustersFrom .start [] cs

end ProfileBrowser.Text
