import ProfileBrowser.Text.Digits
/-!
# Percent encoding

Characters of a URL that are written by their bytes, each as a percent sign and two digits. Controls
and all that is not ASCII are always written so; which other characters are depends on the part of
the URL they stand in.
-/

namespace ProfileBrowser.Url

/-! ### Writing -/

/-- What is encoded in a fragment. -/
def fragmentMarks : List Char := [' ', '"', '<', '>', Char.ofNat 0x60]

/-- What is encoded in a path. -/
def pathMarks : List Char := fragmentMarks ++ ['#', '?', '\x7b', '\x7d']

/-- What is encoded in the name and the password of a user. -/
def userMarks : List Char := pathMarks ++ ['/', ':', ';', '=', '@', '[', '\\', ']', '^', '|']

/-- What is encoded in a query. -/
def queryMarks : List Char := [' ', '"', '#', '<', '>']

/-- Whether a character is encoded whatever it stands in. -/
def isAlwaysEncoded (c : Char) : Bool := c.toNat < 0x20 || 0x7F ≤ c.toNat

/-- The encoded form of a byte. -/
def encodeByte (b : UInt8) : List Char :=
  let digit (n : Nat) : Char := Char.ofNat (if n < 10 then 48 + n else 55 + n)
  ['%', digit (b.toNat / 16), digit (b.toNat % 16)]

/-- A text with the given characters encoded. -/
def encode (marks : List Char) (cs : List Char) : List Char :=
  cs.flatMap fun c =>
    if isAlwaysEncoded c || marks.contains c then (String.utf8EncodeChar c).flatMap encodeByte
    else [c]

/-! ### Reading -/

/-- The bytes of a text, of which some may be encoded. A percent sign without two digits stands for
itself. -/
def decode : List Char → List UInt8
  | [] => []
  | '%' :: a :: b :: rest =>
    match Text.hexDigit? a, Text.hexDigit? b with
    | some x, some y => UInt8.ofNat (x * 16 + y) :: decode rest
    | _, _ => 0x25 :: decode (a :: b :: rest)
  | c :: rest => String.utf8EncodeChar c ++ decode rest

end ProfileBrowser.Url
