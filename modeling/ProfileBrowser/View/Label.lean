/-!
# Fitting labels

A label that is too long for its place loses one of its ends, and an ellipsis marks the cut. Widths
count characters, not columns.
-/

namespace ProfileBrowser

/-- Which end of a label is kept. -/
inductive Direction where
  /-- The start. -/
  | ltr
  /-- The end, which tells long qualified names apart. -/
  | rtl
deriving DecidableEq, Repr, Inhabited

namespace Direction

/-- The name in a state file. -/
def name : Direction → String
  | ltr => "ltr"
  | rtl => "rtl"

/-- The other direction. -/
def toggle : Direction → Direction
  | ltr => rtl
  | rtl => ltr

/-- The mark of a cut. -/
def ellipsis : Char := '…'

/-- Fits a label into a number of characters. -/
def truncateChars (d : Direction) (label : List Char) (width : Nat) : List Char :=
  if label.length ≤ width then label
  else if width = 0 then []
  else
    match d with
    | ltr => label.take (width - 1) ++ [ellipsis]
    | rtl => ellipsis :: label.drop (label.length - (width - 1))

/-- Fits a label into a number of characters. -/
def truncate (d : Direction) (label : String) (width : Nat) : String :=
  String.ofList (d.truncateChars label.toList width)

/-- The text that fills a cell of a flame graph: a blank, the label, and blanks up to the width;
only blanks where there is no room for text. -/
def cellText (d : Direction) (name : String) (width : Nat) : List Char :=
  if width < 3 then List.replicate width ' '
  else
    let label := d.truncateChars name.toList (width - 1)
    ' ' :: label ++ List.replicate (width - 1 - label.length) ' '

end Direction

end ProfileBrowser
