import ProfileBrowser.Yaml.Cursor
/-!
# Gaps in scalars

What stands between two words of a plain or quoted scalar. Blanks inside a line are kept. A line end
is folded to a blank, and blank lines after it stand for one line end each instead.
-/

namespace ProfileBrowser.Yaml.Cursor

/-- After a line end, steps over the blank lines, at most `fuel`, and over the indentation of the
next one: how many were blank? A tab does not indent, but if `lenient` it may stand on a line that
says nothing. -/
def skipFolded? (lenient : Bool) (indent : Int) : Nat → Cursor → Option (Nat × Cursor)
  | 0, _ => none
  | fuel + 1, c =>
    let tabbed := c.tabIndents indent
    let next := if tabbed then c.skipBlanks.skipComment else c.skipBlanks
    if tabbed && !(lenient && next.atLineEnd) then none
    else if next.rest.head?.any isBreak then
      (skipFolded? lenient indent fuel next.newLine).map fun (n, c) => (n + 1, c)
    else some (0, next)

/-- Steps over a gap; also the text that it stands for. -/
def gap? (lenient : Bool) (indent : Int) (c : Cursor) : Option (List Char × Cursor) :=
  let blanks := c.rest.takeWhile isBlank
  let next := c.blanks blanks.length
  if next.rest.head?.any isBreak then
    (skipFolded? lenient indent (next.rest.length + 1) next.newLine).map fun (n, c) =>
      (if n = 0 then [' '] else List.replicate n '\n', c)
  else some (blanks, next)

end ProfileBrowser.Yaml.Cursor
