import ProfileBrowser.Yaml.Scalar.Gap
/-!
# Plain scalars

Scalars without quotes. One may go on over lines that are indented further than the block around it,
and ends in front of a comment, of a colon with a space behind it and, inside a flow collection, of
a mark of those.
-/

namespace ProfileBrowser.Yaml.Cursor

/-- Whether a plain scalar goes on with the next character of a text. -/
def goesOn (flow : Bool) : List Char → Bool
  | [] => false
  | c :: rest =>
    !(isSpace c || (flow && isFlowMark c) ||
      (c = ':' && startsWith (fun d => isSpace d || (flow && isFlowMark d)) rest))

/-- The characters up to the end of a word. -/
def word (flow : Bool) : List Char → List Char
  | [] => []
  | c :: rest => if goesOn flow (c :: rest) then c :: word flow rest else []

/-- A plain scalar of at most `fuel` words, the lines of which are indented by at least `indent`
columns; also what follows. -/
def plain? (flow : Bool) (indent : Int) : Nat → Cursor → Option (List Char × Cursor)
  | 0, _ => none
  | fuel + 1, c =>
    if c.atStart || c.atStop || c.rest.head? = some '#' then some ([], c)
    else if flow && c.rest.head? = some '-' && (c.rest.drop 1).head?.any isFlowMark then none
    else
      let w := word flow c.rest
      let next := if w.isEmpty then c else c.skip w.length
      if !next.rest.head?.any isSpace then some (w, next)
      else
        (gap? true indent next).bind fun (gap, next) =>
          if !flow && next.column < indent then some (w, next)
          else
            (plain? flow indent fuel next).map fun (more, next) =>
              (if more.isEmpty then w else w ++ gap ++ more, next)

end ProfileBrowser.Yaml.Cursor
