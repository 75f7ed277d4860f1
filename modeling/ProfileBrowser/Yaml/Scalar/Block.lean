import ProfileBrowser.Yaml.Cursor
/-!
# Block scalars

Scalars that consist of the indented lines after a header: literal ones keep their line ends, and
folded ones join neighbours by a blank unless one of them is indented further. The header says how
much the lines are indented, which else the first of them tells, and what becomes of the line ends
after the last one.
-/

namespace ProfileBrowser.Yaml.Cursor

/-- What becomes of the line ends after the last line. -/
inductive Ending where
  /-- One is kept. -/
  | clip
  /-- None is kept. -/
  | strip
  /-- All are kept. -/
  | keep
deriving DecidableEq, Repr, Inhabited

/-- The ending that a character asks for. -/
def Ending.of? : Char → Option Ending
  | '+' => some .keep
  | '-' => some .strip
  | _ => none

/-- How much further than the block around it a digit asks for. -/
def furtherOf? (c : Char) : Option Nat := if c.isDigit then some (c.toNat - 48) else none

/-- A header: the ending and the indentation, in any order; also its length. -/
def blockHeader (cs : List Char) : Ending × Option Nat × Nat :=
  match cs.head?.bind Ending.of?, cs.head?.bind furtherOf? with
  | some ending, _ =>
    match (cs.drop 1).head?.bind furtherOf? with
    | some n => (ending, some n, 2)
    | none => (ending, none, 1)
  | none, some n =>
    match (cs.drop 1).head?.bind Ending.of? with
    | some ending => (ending, some n, 2)
    | none => (.clip, some n, 1)
  | none, none => (.clip, none, 0)

/-- Steps over lines, at most `fuel`, that hold at most `indent` spaces, and over the indentation of
the next one: how many lines? -/
def skipEmpty (indent : Nat) : Nat → Cursor → Nat × Cursor
  | 0, c => (0, c)
  | fuel + 1, c =>
    let next := c.blanks ((c.rest.takeWhile (· = ' ')).length.min (indent - c.column))
    if next.rest.head?.any isBreak then
      let (n, next) := skipEmpty indent fuel next.newLine
      (n + 1, next)
    else (0, next)

/-- Steps over lines, at most `fuel`, that hold spaces alone, and over the indentation of the next
one: how many lines, and how far was the one indented that is indented most? -/
def skipFirst : Nat → Cursor → Nat × Nat × Cursor
  | 0, c => (0, 0, c)
  | fuel + 1, c =>
    let next := c.skipSpaces
    if next.rest.head?.any isBreak then
      let (n, most, next') := skipFirst fuel next.newLine
      (n + 1, next.column.max most, next')
    else (0, next.column, next)

/-- The lines of a scalar. -/
structure BlockLines where
  text : List Char
  /-- Whether the last line has an end. -/
  ended : Bool
  /-- How many lines without content follow. -/
  empty : Nat
  next : Cursor

/-- The lines, at most `fuel`, at an indentation. Before the first of them stand `empty` ones
without content; `indented` says whether the line before them starts with a blank, if there is one.
-/
def blockLines (folded : Bool) (indent : Nat) :
    Nat → Option Bool → Nat → Cursor → BlockLines
  | 0, before, empty, c => ⟨[], before.isSome, empty, c⟩
  | fuel + 1, before, empty, c =>
    if c.column ≠ indent || c.rest.isEmpty then ⟨[], before.isSome, empty, c⟩
    else
      let indented := c.rest.head?.any isBlank
      let ends := List.replicate empty '\n'
      let gap :=
        match before with
        | none => ends
        | some indentedBefore =>
          if folded && !indentedBefore && !indented then if empty = 0 then [' '] else ends
          else '\n' :: ends
      let content := c.rest.takeWhile fun d => !isBreak d
      let next := c.blanks content.length
      if next.rest.isEmpty then ⟨gap ++ content, false, 0, next⟩
      else
        let (empty, next) := skipEmpty indent (next.rest.length + 1) next.newLine
        let more := blockLines folded indent fuel (some indented) empty next
        { more with text := gap ++ content ++ more.text }

/-- A block scalar after its mark, in a block at `outer`; also what follows. -/
def block? (folded : Bool) (outer : Int) (c : Cursor) : Option (List Char × Cursor) :=
  let (ending, further, length) := blockHeader c.rest
  if further = some 0 then none
  else
    ((c.skip length).skipRest?).bind fun header =>
      let body := header.newLine
      if !header.atLineEnd || body.rest.head? = some '\t' then none
      else
        let fuel := body.rest.length + 1
        let (indent, empty, first) : Nat × Nat × Cursor :=
          match further with
          | some n =>
            let indent := n + outer.toNat
            (indent, skipEmpty indent fuel body)
          | none =>
            let (empty, most, first) := skipFirst fuel body
            (most.max (outer + 1).toNat, empty, first)
        if first.rest.isEmpty then
          let text :=
            if ending = .strip || first.line = c.line then []
            else if ending = .keep then List.replicate (empty.max 1) '\n'
            else ['\n']
          some (text, first)
        else if first.column < indent && outer < first.column then none
        else
          let lines := blockLines folded indent fuel none empty first
          let atEnd := lines.next.rest.isEmpty && indent.max 1 ≤ lines.next.column
          let last :=
            if ending = .strip then []
            else
              List.replicate
                (lines.ended.toNat + atEnd.toNat + if ending = .keep then lines.empty else 0) '\n'
          some (lines.text ++ last, lines.next)

end ProfileBrowser.Yaml.Cursor
