/-!
# Text inside markup

The four characters that mean something to an XML reader are written as entities; everything else is
written as it is.
-/

namespace ProfileBrowser.Text

/-- One character of a text inside markup. -/
def markupChar (c : Char) : List Char :=
  if c = '&' then "&amp;".toList
  else if c = '<' then "&lt;".toList
  else if c = '>' then "&gt;".toList
  else if c = '"' then "&quot;".toList
  else [c]

/-- A text as it stands inside markup. -/
def markup (s : String) : String := String.ofList (s.toList.flatMap markupChar)

end ProfileBrowser.Text
