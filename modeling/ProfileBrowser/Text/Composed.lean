import ProfileBrowser.Text.Composed.Table
/-!
# Composed text

The form of a text in which a letter and its marks are one character wherever there is one for them,
and in which marks that may change places stand in one order. It is reached in three steps: the
characters are taken apart, the marks are put in order, and what belongs together is composed.
-/

namespace ProfileBrowser.Text

/-- The combining class of a character. Class 0 keeps its place. -/
def combiningClass (c : Char) : Nat :=
  ((combiningClasses.find? fun (_, marks) => marks.hold c.toNat).map Prod.fst).getD 0

/-! ### Syllables

A syllable of Hangul has a first consonant, a vowel and perhaps a last consonant. The syllables are
numbered by them, of which there are 19, 21 and, with the one that is left out, 28. -/

namespace Syllable

/-- Whether a code is that of a syllable. -/
def isSyllable (n : Nat) : Bool := 0xAC00 ≤ n && n < 0xD7A4

/-- What a code makes with the one behind it, if that adds a part to a syllable. -/
def join? (n part : Nat) : Option Nat :=
  if 0x1100 ≤ n ∧ n < 0x1113 ∧ 0x1161 ≤ part ∧ part < 0x1176 then
    some (0xAC00 + ((n - 0x1100) * 21 + (part - 0x1161)) * 28)
  else if isSyllable n ∧ (n - 0xAC00) % 28 = 0 ∧ 0x11A8 ≤ part ∧ part < 0x11C3 then
    some (n + (part - 0x11A7))
  else none

/-- A syllable without its last part, and that part. -/
def split? (n : Nat) : Option (Nat × Nat) :=
  if isSyllable n then
    let place := n - 0xAC00
    if place % 28 = 0 then some (0x1100 + place / 588, 0x1161 + place % 588 / 28)
    else some (n - place % 28, 0x11A7 + place % 28)
  else none

end Syllable

/-! ### Taking apart -/

/-- What a character makes with the one behind it, if there is a character for both. -/
def joined? (c part : Char) : Option Char :=
  match Syllable.join? c.toNat part.toNat with
  | some n => some (Char.ofNat n)
  | none => ((compositions.lookup part.toNat).bind (·.lookup c.toNat)).map Char.ofNat

/-- The two characters for which one stands, if a row of the table has it. -/
def splitInRow (n : Nat) (row : Nat × List (Nat × Nat)) : Option (Nat × Nat) :=
  (row.2.find? (·.2 = n)).map fun (first, _) => (first, row.1)

/-- The two characters for which one stands. -/
def split? (c : Char) : Option (Char × Char) :=
  ((Syllable.split? c.toNat).or (compositions.findSome? (splitInRow c.toNat))).map
    fun (first, part) => (Char.ofNat first, Char.ofNat part)

/-- A character taken apart, at most so many times. -/
def apart : Nat → Char → List Char
  | 0, c => [c]
  | n + 1, c =>
    match split? c with
    | none => [c]
    | some (first, part) => apart n first ++ [part]

/-- How many parts a character has at most besides the first. -/
def mostParts : Nat := 3

/-! ### Order -/

/-- Puts a mark after the characters before it, the last of them first. It goes in front of those of
higher classes. -/
def settle (mark : Char) : List Char → List Char
  | [] => [mark]
  | c :: before =>
    if combiningClass mark ≠ 0 ∧ combiningClass mark < combiningClass c then
      c :: settle mark before
    else mark :: c :: before

/-- A text whose marks are in order. -/
def inOrder (cs : List Char) : List Char :=
  (cs.foldl (fun before c => settle c before) []).reverse

/-! ### Composing -/

/-- Composes a character, the marks that stay behind it, the last of them first, and the rest of a
text. The next mark reaches the character only if the marks between are of lower classes. -/
def compose (c : Char) (kept : List Char) : List Char → List Char
  | [] => c :: kept.reverse
  | next :: rest =>
    let reaches := kept.head?.all fun last => combiningClass last < combiningClass next
    match if reaches then joined? c next else none with
    | some made => compose made kept rest
    | none =>
      if combiningClass next = 0 then c :: kept.reverse ++ compose next [] rest
      else compose c (next :: kept) rest

/-- The composed form of a text. -/
def composed (cs : List Char) : List Char :=
  match inOrder (cs.flatMap (apart mostParts)) with
  | [] => []
  | c :: rest => compose c [] rest

end ProfileBrowser.Text
