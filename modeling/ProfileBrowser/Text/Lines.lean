/-!
# Lines

A text as lines: a line feed ends a line, a carriage return right before it belongs to the end, and
nothing after the last line feed is no line.
-/

namespace ProfileBrowser.Text

/-- The lines of the rest of a text, given the current line, its last character first, and whether
any character has been put on it. -/
def linesFrom (line : List Char) : List Char → List (List Char)
  | [] => if line.isEmpty then [] else [line.reverse]
  | '\n' :: rest =>
    let line := match line with
      | '\r' :: before => before
      | _ => line
    line.reverse :: linesFrom [] rest
  | c :: rest => linesFrom (c :: line) rest

/-- The lines of a text. -/
def lines (s : String) : List String := (linesFrom [] s.toList).map String.ofList

end ProfileBrowser.Text
