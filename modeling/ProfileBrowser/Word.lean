/-!
# Words

The bounds of machine words: how many there are, and the greatest of each kind.
-/

namespace ProfileBrowser.Word

/-- How many words of 64 bits there are, `2^64`. -/
def count : Nat := 18446744073709551616

/-- The greatest word of 64 bits. -/
def greatest : Nat := 18446744073709551615

/-- How many signed words of 64 bits are not negative, `2^63`; there are as many negative ones. -/
def signedCount : Nat := 9223372036854775808

/-- How many words of 16 bits there are. -/
def shortCount : Nat := 65536

/-- The greatest word of 16 bits. -/
def greatestShort : Nat := 65535

/-- Whether an integer is a signed word of 64 bits. -/
def isSigned (i : Int) : Bool := -(signedCount : Int) ≤ i && i < signedCount

end ProfileBrowser.Word
