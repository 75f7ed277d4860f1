/-!
# Characters of YAML

The classes of characters that tell the parts of a YAML document apart.
-/

namespace ProfileBrowser.Yaml

/-- A blank inside a line. -/
def isBlank (c : Char) : Bool := c = ' ' || c = '\t'

/-- A character that ends a line. -/
def isBreak (c : Char) : Bool := c = '\n' || c = '\r'

/-- A blank or a line end. -/
def isSpace (c : Char) : Bool := isBlank c || isBreak c

/-- The marks of flow collections. -/
def isFlowMark (c : Char) : Bool :=
  c = ',' || c = '[' || c = ']' || c = '\x7b' || c = '\x7d'

/-- A character of a word: the name of a directive or of a handle. -/
def isWord (c : Char) : Bool := c.isAlphanum || c = '_' || c = '-'

/-- A character of the address that a tag may be. -/
def isAddress (c : Char) : Bool := isWord c || "#;/?:@&=+$,.!~*'()[]%".toList.contains c

/-- A character of a tag that is written with a handle. -/
def isTagChar (c : Char) : Bool := isAddress c && !isFlowMark c && c ≠ '!'

/-- A character of the name of an anchor. -/
def isAnchorChar (c : Char) : Bool := !isSpace c && !isFlowMark c && c ≠ Char.ofNat 0xFEFF

/-- Whether a text begins with a character of a class; its end counts as one. -/
def startsWith (p : Char → Bool) (cs : List Char) : Bool := cs.head?.all p

/-- Whether a text begins with three of a character and then a space. -/
def startsMarker (c : Char) (cs : List Char) : Bool :=
  cs.take 3 = [c, c, c] && startsWith isSpace (cs.drop 3)

end ProfileBrowser.Yaml
