import ProfileBrowser.Text.Columns.Table
/-!
# Columns

How many columns of a terminal a text fills. Most characters fill one, two or none of their own.
Some are shown as one with what follows them: a selector changes how the emoji before it is shown, a
joiner ties emoji to one, and some scripts have ligatures. A text is therefore measured from its end
to its start, and what a character adds depends on what begins behind it (`Ahead`).
-/

namespace ProfileBrowser.Text

/-! ### What may follow a character -/

/-- A letter that may be the last one of a ligature. -/
inductive Ligature where
  | arabicAlef
  /-- With a joiner in front of it, the last letter of a Hebrew ligature. -/
  | hebrewLamed (joined : Bool)
  | bugineseYa (joined : Bool)
  /-- A vowel in front of a joined letter. -/
  | bugineseVowel
  | tifinagh (joined : Bool)
  /-- The mark that joins two letters in front of the second one. -/
  | tifinaghJoiner
  | lisuTone
  | oldTurkicI (joined : Bool)
  /-- A letter that is written below the one before the sign in front of it. -/
  | khmerLetter
deriving DecidableEq, Repr, Inhabited

/-- What begins behind a character. -/
inductive Beginning where
  /-- Nothing that the character could be shown as one with. -/
  | plain
  | lineFeed
  | skinTone
  | regional
  /-- Two regional indicators or more. -/
  | regionals
  | emoji
  /-- An emoji with a joiner in front of it. -/
  | joined
  /-- The mark of a key in front of a joiner. -/
  | joinedKey
  /-- Regional indicators in front of a joiner: one, or an even or odd number. -/
  | joinedRegional
  | joinedRegionals (even : Bool)
  /-- The last one of the tags of a flag in front of a joiner, and tags in front of it. -/
  | joinedTags
  | joinedDigits (count : Nat)
  | joinedLetters (count : Nat)
  /-- Vowels of Kirat Rai, which are written as one. -/
  | vowelE
  | vowelAi
  | ligature (last : Ligature)
deriving DecidableEq, Repr, Inhabited

/-- What begins behind a character, and which selectors stand in front of it. -/
structure Ahead where
  beginning : Beginning := .plain
  /-- Whether what stands before is to be shown as emoji. -/
  asEmoji : Bool := false
  /-- Whether what stands before is to be shown as text. -/
  asText : Bool := false
deriving DecidableEq, Repr, Inhabited

namespace Ahead

/-- Nothing that matters. -/
def none : Ahead := {}

/-- Whether the last letter of a ligature begins here. -/
def isLigature (a : Ahead) : Bool :=
  match a.beginning with
  | .ligature _ => true
  | _ => false

/-- Whether marks may stand between what begins here and the character before it. -/
def seesThrough (a : Ahead) : Bool := a.isLigature && a.beginning ≠ .ligature .arabicAlef

/-- With the selector for emoji in front. -/
def selectEmoji (a : Ahead) : Ahead :=
  if a.isLigature || a.beginning = .joined || a.beginning = .joinedKey then
    { a with asEmoji := true }
  else { asEmoji := true }

/-- With the selector for text in front. -/
def selectText (a : Ahead) : Ahead :=
  if a.isLigature then { a with asText := true } else { asText := true }

/-- Without the selector for emoji, which was in vain. -/
def dropEmoji (a : Ahead) : Ahead := if a.isLigature then { a with asEmoji := false } else none

/-- Without the selector for text, which was in vain. -/
def dropText (a : Ahead) : Ahead := if a.isLigature then { a with asText := false } else none

end Ahead

/-! ### Single characters -/

/-- Whether a number lies in a range. -/
def within (first last n : Nat) : Bool := first ≤ n && n ≤ last

/-- A letter that may be the last one of a ligature. -/
def ligature? (n : Nat) : Option Ligature :=
  if [0x622, 0x623, 0x625, 0x627, 0x671, 0x672, 0x673, 0x675, 0x773, 0x774].contains n ||
      within 0x870 0x882 n then some .arabicAlef
  else if n = 0x5DC then some (.hebrewLamed false)
  else if n = 0x1A10 then some (.bugineseYa false)
  else if within 0x2D31 0x2D65 n || n = 0x2D6F then some (.tifinagh false)
  else if within 0xA4FC 0xA4FD n then some .lisuTone
  else if n = 0x10C03 then some (.oldTurkicI false)
  else if within 0x1780 0x1782 n || within 0x1784 0x1787 n || within 0x1789 0x178C n ||
      within 0x178E 0x1793 n || within 0x1795 0x1798 n || within 0x179B 0x179D n || n = 0x17A0 ||
      n = 0x17A2 || n = 0x17A7 || within 0x17AB 0x17AC n || n = 0x17AF then some .khmerLetter
  else Option.none

/-- Whether a character is one of the tags that stand for letters. -/
def isLetterTag (n : Nat) : Bool := within 0xE0061 0xE007A n

/-- Whether a character is one of the tags that stand for digits. -/
def isDigitTag (n : Nat) : Bool := within 0xE0030 0xE0039 n

/-- Whether a character is a regional indicator. -/
def isRegional (n : Nat) : Bool := within 0x1F1E6 0x1F1FF n

/-- Whether a character is a skin tone. -/
def isSkinTone (n : Nat) : Bool := within 0x1F3FB 0x1F3FF n

/-- How many columns a character fills on its own, and what begins with it. -/
def alone (n : Nat) : Nat × Ahead :=
  if n = 0xA then (1, { beginning := .lineFeed })
  else if n < 0xA1 then (1, .none)
  else
    match ligature? n with
    | some l => (1, { beginning := .ligature l })
    | Option.none =>
      if n = 0x17D8 then (3, .none)
      else if n = 0xFE0E then (0, Ahead.none.selectText)
      else if n = 0xFE0F then (0, Ahead.none.selectEmoji)
      else if n = 0x16D67 then (1, { beginning := .vowelE })
      else if n = 0x16D68 then (1, { beginning := .vowelAi })
      else if isRegional n then (1, { beginning := .regional })
      else if isSkinTone n then (2, { beginning := .skinTone })
      else if emojiByDefault.hold n then (2, { beginning := .emoji })
      else if zeroWidth.hold n then (0, .none)
      else if wide.hold n then (2, .none)
      else (1, .none)

/-! ### Characters in a text -/

/-- What a character adds to the columns of the last letter of a ligature, if they are one, and what
begins with it. -/
def joinLigature? (n : Nat) : Ligature → Option (Int × Ahead)
  | .arabicAlef =>
    if n = 0x644 || within 0x6B5 0x6B8 n || n = 0x76A || n = 0x8A6 || n = 0x8C7 then some (0, .none)
    else if zeroWidth.hold n && !opaqueMarks.hold n then
      some (0, { beginning := .ligature .arabicAlef })
    else Option.none
  | .hebrewLamed true => if n = 0x5D0 then some (0, .none) else Option.none
  | .bugineseYa true =>
    if n = 0x1A17 then some (0, { beginning := .ligature .bugineseVowel }) else Option.none
  | .bugineseVowel => if n = 0x1A15 then some (0, .none) else Option.none
  | .tifinagh joined =>
    if n = 0x2D7F then some (1, { beginning := .ligature .tifinaghJoiner })
    else if joined && (within 0x2D31 0x2D65 n || n = 0x2D6F) then some (0, .none)
    else Option.none
  | .tifinaghJoiner =>
    if within 0x2D31 0x2D65 n || n = 0x2D6F then some (-1, .none) else Option.none
  | .lisuTone => if within 0xA4F8 0xA4FB n then some (0, .none) else Option.none
  | .oldTurkicI true => if n = 0x10C32 then some (0, .none) else Option.none
  | .khmerLetter => if n = 0x17D2 then some (-1, .none) else Option.none
  | _ => Option.none

/-- A letter with a joiner in front of it. -/
def Ligature.join : Ligature → Ligature
  | .hebrewLamed _ => .hebrewLamed true
  | .bugineseYa _ => .bugineseYa true
  | .tifinagh _ => .tifinagh true
  | .oldTurkicI _ => .oldTurkicI true
  | l => l

/-- What a character adds in front of a joiner with an emoji behind it, and what begins with it. -/
def joinEmoji? (n : Nat) : Option (Int × Ahead) :=
  if n = 0x20E3 then some (0, { beginning := .joinedKey })
  else if isRegional n then some (1, { beginning := .joinedRegional })
  else if isSkinTone n then some (0, { beginning := .skinTone })
  else if n = 0xE007F then some (0, { beginning := .joinedTags })
  else if emojiByDefault.hold n then some (0, { beginning := .emoji })
  else Option.none

/-- What a character adds in front of tags, of which some digits or letters are known, if it is a
tag too or the flag that they belong to. -/
def joinTags? (n : Nat) (b : Beginning) : Option (Int × Ahead) :=
  let tag (b : Beginning) : Option (Int × Ahead) := some (0, { beginning := b })
  match b with
  | .joinedTags =>
    if isLetterTag n then tag (.joinedLetters 1)
    else if isDigitTag n then tag (.joinedDigits 1)
    else Option.none
  | .joinedDigits k =>
    if isDigitTag n && k < 3 then tag (.joinedDigits (k + 1))
    else if n = 0x1F3F4 && k = 3 then tag .emoji
    else Option.none
  | .joinedLetters k =>
    if isLetterTag n && k < 6 then tag (.joinedLetters (k + 1))
    else if isDigitTag n && k < 5 then tag (.joinedDigits 1)
    else if n = 0x1F3F4 && 3 ≤ k then tag .emoji
    else Option.none
  | _ => Option.none

/-- What a character adds to what begins behind it, if they are shown as one, and what begins with
it. -/
def join? (n : Nat) (b : Beginning) : Option (Int × Ahead) :=
  let isJoiner := n = 0x200D
  let joiner : Option (Int × Ahead) := some (0, { beginning := .joined })
  match b with
  | .ligature l => joinLigature? n l
  | .skinTone =>
    if toneBases.hold n then some (0, { beginning := .emoji })
    else if isJoiner then joiner
    else Option.none
  | .emoji => if isJoiner then joiner else Option.none
  | .regional => if isRegional n then some (1, { beginning := .regionals }) else Option.none
  | .regionals =>
    if isRegional n then some (1, { beginning := .regionals })
    else if isJoiner then joiner
    else Option.none
  | .joinedRegional =>
    if isRegional n then some (-1, { beginning := .joinedRegionals true }) else Option.none
  | .joinedRegionals even =>
    if isRegional n then
      some (if even then 3 else -1, { beginning := .joinedRegionals (!even) })
    else if isJoiner then joiner
    else Option.none
  | .joined => joinEmoji? n
  | .vowelE =>
    if n = 0x16D63 || n = 0x16D69 then some (0, .none)
    else if n = 0x16D67 then some (0, { beginning := .vowelAi })
    else if n = 0x16D68 then some (1, { beginning := .vowelE })
    else Option.none
  | .vowelAi => if n = 0x16D63 then some (0, .none) else Option.none
  | b => joinTags? n b

/-- Whether a mark may stand inside a ligature. -/
def isSeenThrough (n : Nat) : Bool :=
  n = 0x34F || within 0x17B4 0x17B5 n || within 0x180B 0x180D n || n = 0x180F ||
    within 0xFE00 0xFE0F n || within 0xE0100 0xE01EF n

/-- What a character adds to the columns of what is behind it, no selector for emoji, and what
begins with it. -/
def addPlain (n : Nat) (a : Ahead) : Int × Ahead :=
  if n < 0xA1 then
    if n = 0xD && a.beginning = .lineFeed then (0, .none) else ((alone n).1, (alone n).2)
  else if n = 0xFE0F then (0, a.selectEmoji)
  else if n = 0xFE0E then (0, a.selectText)
  else if a.asText && textOnDemand.hold n then (1, .none)
  else
    let a := if a.asText then a.dropText else a
    let ordinary : Int × Ahead :=
      (join? n a.beginning).getD ((alone n).1, (alone n).2)
    match a.beginning with
    | .ligature l =>
      if a.seesThrough && n = 0x200D then (0, { a with beginning := .ligature l.join })
      else if a.seesThrough && isSeenThrough n then (0, a)
      else ordinary
    | _ => ordinary

/-- What a character adds to the columns of what is behind it, and what begins with it. -/
def add (c : Char) (a : Ahead) : Int × Ahead :=
  let n := c.toNat
  if a.asEmoji && emojiOnDemand.hold n then
    (if a.beginning = .joined || a.beginning = .joinedKey then 0 else 2, { beginning := .emoji })
  else addPlain n (if a.asEmoji then a.dropEmoji else a)

/-- The columns of a text, and what begins with it. -/
def measure (cs : List Char) : Int × Ahead :=
  cs.foldr
    (fun c (columns, ahead) =>
      let (more, ahead) := add c ahead
      (columns + more, ahead))
    (0, .none)

/-- How many columns characters fill. -/
def columns (cs : List Char) : Nat := (measure cs).1.toNat

/-- How many columns a text fills. -/
def textColumns (s : String) : Nat := columns s.toList

end ProfileBrowser.Text
