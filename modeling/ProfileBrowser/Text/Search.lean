/-!
# Searching a text

Whether one list of characters occurs in another without a gap.
-/

namespace ProfileBrowser.Text

/-- Whether `needle` occurs in the list as a contiguous piece. -/
def occursIn (needle : List Char) : List Char → Bool
  | [] => needle.isEmpty
  | c :: rest => needle.isPrefixOf (c :: rest) || occursIn needle rest

end ProfileBrowser.Text
