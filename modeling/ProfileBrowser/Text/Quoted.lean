import ProfileBrowser.Text.Grapheme.Table
import ProfileBrowser.Text.Quoted.Table
/-!
# Quoted text

The form in which a message shows a text: between double quotes, with everything that cannot be seen
written out.
-/

namespace ProfileBrowser.Text

/-- The hexadecimal digits of a number, small letters, no leading zeros. -/
def hexText (n : Nat) : String := String.ofList (Nat.toDigits 16 n)

/-- One character of a quoted text. -/
def quoteChar (c : Char) : String :=
  let n := c.toNat
  if n = 0 then "\\0"
  else if c = '\t' then "\\t"
  else if c = '\r' then "\\r"
  else if c = '\n' then "\\n"
  else if c = '"' then "\\\""
  else if c = '\\' then "\\\\"
  else if graphemeExtend.hold n || nonPrinting.hold n then "\\u\x7b" ++ hexText n ++ "\x7d"
  else c.toString

/-- A text between double quotes. -/
def quoted (s : String) : String := "\"" ++ String.join (s.toList.map quoteChar) ++ "\""

end ProfileBrowser.Text
