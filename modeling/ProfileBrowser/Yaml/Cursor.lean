import ProfileBrowser.Yaml.Character
/-!
# Cursors

A place in a YAML text: what is left of the text, and where that stands. Indentation is told by
columns, so every step over characters keeps them.
-/

namespace ProfileBrowser.Yaml

/-- A place in a text. -/
structure Cursor where
  rest : List Char
  /-- How many characters stand before it. -/
  index : Nat := 0
  line : Nat := 0
  column : Nat := 0
  /-- Whether only blanks stand before it on its line. -/
  leading : Bool := true
deriving Inhabited

namespace Cursor

/-- Steps over blanks. -/
def blanks (n : Nat) (c : Cursor) : Cursor :=
  { c with rest := c.rest.drop n, index := c.index + n, column := c.column + n }

/-- Steps over characters of a line. -/
def skip (n : Nat) (c : Cursor) : Cursor := { c.blanks n with leading := false }

/-- Steps over a line end, if one comes next. -/
def newLine (c : Cursor) : Cursor :=
  match c.rest with
  | '\r' :: '\n' :: rest => ⟨rest, c.index + 2, c.line + 1, 0, true⟩
  | d :: rest => if isBreak d then ⟨rest, c.index + 1, c.line + 1, 0, true⟩ else c
  | [] => c

/-- Whether the line ends here. -/
def atLineEnd (c : Cursor) : Bool := startsWith isBreak c.rest

/-- Whether a document starts here. -/
def atStart (c : Cursor) : Bool := c.column = 0 && startsMarker '-' c.rest

/-- Whether a document ends here. -/
def atStop (c : Cursor) : Bool := c.column = 0 && startsMarker '.' c.rest

/-- Steps over spaces. -/
def skipSpaces (c : Cursor) : Cursor := c.blanks (c.rest.takeWhile (· = ' ')).length

/-- Steps over blanks. -/
def skipBlanks (c : Cursor) : Cursor := c.blanks (c.rest.takeWhile isBlank).length

/-- Steps over a comment, if one comes next. -/
def skipComment (c : Cursor) : Cursor :=
  match c.rest with
  | '#' :: _ => c.skip (c.rest.takeWhile fun d => !isBreak d).length
  | _ => c

/-- Steps over blanks and a comment that they set apart from what stands before. -/
def skipRest? (c : Cursor) : Option Cursor :=
  if c.rest.head? = some '#' then none else some c.skipBlanks.skipComment

/-- Whether the next blanks hold a tab in a column of the indentation. -/
def tabIndents (indent : Int) (c : Cursor) : Bool :=
  c.leading && c.skipSpaces.rest.head? = some '\t' && c.skipSpaces.column < indent

/-- Steps over blanks, comments and at most `fuel` line ends, and says whether a line ended. Inside
a block, a tab does not indent a line that says something. -/
def skipToContent? (inBlock : Bool) (indent : Int) : Nat → Cursor → Option (Bool × Cursor)
  | 0, _ => none
  | fuel + 1, c =>
    let next := c.skipBlanks.skipComment
    if inBlock && c.tabIndents indent && !next.atLineEnd then none
    else if next.rest.head?.any isBreak then
      (skipToContent? inBlock indent fuel next.newLine).map fun (_, c) => (true, c)
    else some (false, next)

/-- Steps over spaces, comments and at most `fuel` line ends. -/
def skipLines : Nat → Cursor → Cursor
  | 0, c => c
  | fuel + 1, c =>
    let next := c.skipSpaces.skipComment
    if next.rest.head?.any isBreak then skipLines fuel next.newLine else next

end Cursor

end ProfileBrowser.Yaml
