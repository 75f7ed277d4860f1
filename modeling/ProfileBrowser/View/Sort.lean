/-!
# Sorting the table

The backend sorts the rows; the viewer only says by which column and in which direction.
-/

namespace ProfileBrowser

/-- A column to sort by. -/
inductive SortColumn where
  | name
  /-- The amount of the function itself. -/
  | self
  /-- The amount with everything called. -/
  | total
deriving DecidableEq, Repr, Inhabited

namespace SortColumn

/-- The next column, around the end. -/
def next : SortColumn → SortColumn
  | name => self
  | self => total
  | total => name

/-- The column's name in a directive. -/
def key : SortColumn → String
  | name => "name"
  | self => "self"
  | total => "total"

end SortColumn

/-- An order of the table. -/
structure TableSort where
  column : SortColumn := .total
  ascending : Bool := false
deriving DecidableEq, Repr, Inhabited

/-- The order as a request names it: the column, after a minus when descending. -/
def TableSort.directive (s : TableSort) : String :=
  if s.ascending then s.column.key else "-" ++ s.column.key

end ProfileBrowser
