import ProfileBrowser.Text.Composed
import ProfileBrowser.Text.Grapheme.Table
import ProfileBrowser.Url.Domain.Letter.Table
/-!
# Letters of domains

What the rules of a label ask of a character: whether it is a mark, in which direction it is
written, and on which sides it joins its neighbours.
-/

namespace ProfileBrowser.Url.Domain

/-! ### Marks -/

/-- Whether a character is a mark, which a label cannot start with. -/
def isMark (c : Char) : Bool :=
  let n := c.toNat
  Text.graphemeExtend.hold n || Text.spacingMarks.hold n || lonelyVowels.hold n

/-- Whether a character is a mark without a width of its own. -/
def isNarrowMark (c : Char) : Bool :=
  Text.graphemeExtend.hold c.toNat && !letteredMarks.hold c.toNat

/-- Whether a character is a virama, the mark that takes the vowel from a consonant. -/
def isVirama (c : Char) : Bool := Text.combiningClass c = 9

/-! ### Directions -/

/-- The direction in which a character is written. -/
inductive Direction where
  | leftToRight
  | rightToLeft
  | europeanDigit
  | arabicDigit
  /-- The one of the character before it. -/
  | mark
  /-- The one of the characters around it. -/
  | neutral
deriving DecidableEq, Repr, Inhabited

/-- The direction of a character. -/
def direction (c : Char) : Direction :=
  let n := c.toNat
  if n < 0x80 then
    if c.isAlpha then .leftToRight else if c.isDigit then .europeanDigit else .neutral
  else if rightToLeft.hold n then .rightToLeft
  else if europeanDigits.hold n then .europeanDigit
  else if arabicDigits.hold n then .arabicDigit
  else if isNarrowMark c && !directedMarks.hold n then .mark
  else if undirected.hold n then .neutral
  else .leftToRight

/-! ### Joining -/

/-- Whether a letter joins the one after it. -/
def joinsAfter (c : Char) : Bool := joinsBoth.hold c.toNat || joinsNext.hold c.toNat

/-- Whether a letter joins the one before it. -/
def joinsBefore (c : Char) : Bool := joinsBoth.hold c.toNat || joinsLast.hold c.toNat

/-- Whether letters join across a character: across marks, and the letter of Adlam that is written
as one. -/
def isTransparent (c : Char) : Bool := isNarrowMark c || c.toNat = 0x1E94B

end ProfileBrowser.Url.Domain
