import ProfileBrowser.Word
import ProfileBrowser.Yaml.Scalar.Block
import ProfileBrowser.Yaml.Scalar.Plain
import ProfileBrowser.Yaml.Scalar.Quoted
import ProfileBrowser.Yaml.Token
/-!
# From text to tokens

The tokens of a text, from left to right. That something was a key shows at the colon behind it, so
the lexer remembers where a key may have begun, for every flow collection that is open, and puts the
tokens in front of it later. The columns at which blocks begin are on a stack, and a token further
to the left ends them.
-/

namespace ProfileBrowser.Yaml

/-- A place at which a key may have begun. -/
structure Candidate where
  index : Nat
  line : Nat
  column : Nat
  /-- How many tokens there are in front of it. -/
  place : Nat
  /-- Whether nothing but a key may stand there. -/
  required : Bool
deriving DecidableEq, Repr, Inhabited

/-- An indentation on the stack: the one around it, and whether a block begins there. Where none
does, it is the least that a value goes on with. -/
structure Indent where
  outer : Int
  isBlock : Bool
deriving DecidableEq, Repr, Inhabited

/-- A text of which a part is read. -/
structure Lexer where
  cursor : Cursor
  tokens : Array Token := #[]
  /-- The present indentation; outside of all blocks it is -1. -/
  indent : Int := -1
  indents : List Indent := []
  /-- Whether a key may begin here. -/
  keyAllowed : Bool := true
  /-- Where a key may have begun, the innermost flow collection first and no collection last. -/
  candidates : List (Option Candidate) := [none]
  /-- How many flow collections are open. -/
  flowDepth : Nat := 0
  /-- The index at which a colon needs no space behind it. -/
  colonIndex : Nat := 0
  /-- Whether a mapping in braces, or one with a question mark, began and its end was not told. -/
  mappingBegan : Bool := false
  /-- For every list in brackets, whether a mapping without braces is open in it. -/
  bare : List Bool := []
deriving Inhabited

namespace Lexer

/-- How deep flow collections nest at most. -/
def maxFlowDepth : Nat := 255

/-- How many characters a key has at most. -/
def maxKeyLength : Nat := 1024

/-! ### Steps -/

/-- Whether a flow collection is open. -/
def inFlow (l : Lexer) : Bool := 0 < l.flowDepth

/-- Adds a token. -/
def push (t : Token) (l : Lexer) : Lexer := { l with tokens := l.tokens.push t }

/-- Goes on elsewhere. -/
def goTo (cursor : Cursor) (l : Lexer) : Lexer := { l with cursor }

/-- Says whether a key may begin next. -/
def allowKey (allowed : Bool) (l : Lexer) : Lexer := { l with keyAllowed := allowed }

/-- Steps over blanks and a comment. -/
def skipRest? (l : Lexer) : Option Lexer := l.cursor.skipRest?.map fun cursor => l.goTo cursor

/-- Steps over everything up to the next token. Outside of flow collections a key may begin on a new
line. -/
def skipToContent? (l : Lexer) : Option Lexer :=
  (l.cursor.skipToContent? (!l.indents.isEmpty) l.indent (l.cursor.rest.length + 1)).map
    fun (ended, cursor) =>
      { l with cursor, keyAllowed := l.keyAllowed || (ended && !l.inFlow) }

/-! ### Keys -/

/-- Remembers that a key may begin here. -/
def saveKey (l : Lexer) : Lexer :=
  if l.keyAllowed then
    let required := !l.inFlow && l.indent = l.cursor.column && l.indents.head?.any Indent.isBlock
    let candidate : Candidate :=
      ⟨l.cursor.index, l.cursor.line, l.cursor.column, l.tokens.size, required⟩
    { l with candidates := some candidate :: l.candidates.drop 1 }
  else l

/-- The innermost place at which a key may have begun. -/
def candidate? (l : Lexer) : Option Candidate := l.candidates.head?.join

/-- Forgets the innermost place at which a key may have begun. -/
def dropKey? (l : Lexer) : Option Lexer :=
  if l.candidate?.any Candidate.required then none
  else some { l with candidates := none :: l.candidates.drop 1 }

/-- Forgets the places that are too far back. Outside of flow collections a key stands on one
line. -/
def dropStale? (l : Lexer) : Option Lexer :=
  let isStale (k : Candidate) : Bool :=
    !l.inFlow && (k.line < l.cursor.line || k.index + maxKeyLength < l.cursor.index)
  if l.candidates.any fun k => k.any fun k => isStale k && k.required then none
  else some { l with candidates := l.candidates.map (Option.filter fun k => !isStale k) }

/-! ### Indentation -/

/-- Takes indentations from the stack that are greater than a column, over at most as many. -/
def unrollTo (column : Int) (l : Lexer) : List Indent → Lexer
  | [] => l
  | i :: rest =>
    if column < l.indent then
      unrollTo column
        { l with
          indent := i.outer
          indents := rest
          tokens := if i.isBlock then l.tokens.push .blockEnd else l.tokens } rest
    else l

/-- Ends the blocks that are indented further than a column. -/
def unroll (column : Int) (l : Lexer) : Lexer :=
  if l.inFlow then l else unrollTo column l l.indents

/-- Takes the indentations at which no block begins from the top of the stack. -/
def unrollValue (l : Lexer) : Lexer :=
  let values := l.indents.takeWhile fun i => !i.isBlock
  match values.getLast? with
  | some i => { l with indent := i.outer, indents := l.indents.drop values.length }
  | none => l

/-- Makes the rest of a value be indented further than the block that it stands in. -/
def rollValue (l : Lexer) : Lexer :=
  if !l.inFlow && l.indents.head?.any Indent.isBlock then
    { l with indent := l.indent + 1, indents := ⟨l.indent, false⟩ :: l.indents }
  else l

/-- Begins a block at a column, in front of a token, if that is indented further than the block
around it. -/
def roll (column : Nat) (place : Nat) (start : Token) (l : Lexer) : Lexer :=
  if l.inFlow then l
  else
    let l :=
      match l.indents with
      | i :: rest =>
        if l.indent ≤ (column : Int) && !i.isBlock then
          { l with indent := i.outer, indents := rest }
        else l
      | [] => l
    if l.indent < (column : Int) then
      { l with
        indent := column
        indents := ⟨l.indent, true⟩ :: l.indents
        tokens := l.tokens.insertIdxIfInBounds place start }
    else l

/-- Begins a block at a column with the next token. -/
def rollHere (column : Nat) (start : Token) (l : Lexer) : Lexer := roll column l.tokens.size start l

/-! ### Documents -/

/-- A mark between documents: three characters. -/
def documentMark? (t : Token) (l : Lexer) : Option Lexer :=
  (l.unroll (-1)).dropKey?.map fun l => ((l.allowKey false).goTo (l.cursor.skip 3)).push t

/-- The end of a document. -/
def documentEnd? (l : Lexer) : Option Lexer := do
  let l ← (← l.documentMark? .documentEnd).skipRest?
  if l.cursor.atLineEnd then some l else none

/-- The number of digits in front of the rest of a version, if it may be a number. -/
def versionLength? (c : Cursor) : Option Nat :=
  let n := (c.rest.takeWhile Char.isDigit).length
  if 1 ≤ n && n ≤ 9 then some n else none

/-- A version: two numbers with a point between them. -/
def version? (c : Cursor) : Option (Token × Cursor) := do
  let c := c.skipBlanks
  let c := c.skip (← versionLength? c)
  if c.rest.head? ≠ some '.' then none
  else
    let c := c.skip 1
    return (.version, c.skip (← versionLength? c))

/-- What a handle stands for. -/
def meaning? (c : Cursor) : Option (Token × Cursor) := do
  let (handle, c) ← c.skipBlanks.handle? true
  let (text, c) ← c.skipBlanks.handleMeaning?
  if startsWith isSpace c.rest then
    some (.meaning (String.ofList handle) (String.ofList text), c)
  else none

/-- A directive: a percent sign and a name. What is not known gives the empty handle no meaning. -/
def directive? (l : Lexer) : Option Lexer := do
  let l ← (l.unroll (-1)).dropKey?
  let c := l.cursor.skip 1
  let name := c.rest.takeWhile isWord
  let c := c.skip name.length
  if name.isEmpty || !startsWith isSpace c.rest then none
  else
    let (t, c) ←
      match String.ofList name with
      | "YAML" => version? c
      | "TAG" => meaning? c
      | _ => some (.meaning "" "", c.skip (c.rest.takeWhile fun d => !isBreak d).length)
    let c ← c.skipRest?
    if c.atLineEnd then some (((l.allowKey false).goTo c.newLine).push t) else none

/-! ### Flow collections -/

/-- Ends the mapping without braces in the innermost list, if one is open. -/
def endBare (l : Lexer) : Lexer :=
  match l.bare with
  | true :: rest => ({ l with bare := false :: rest, mappingBegan := false }).push .flowMappingEnd
  | _ => l

/-- The start of a list or, if `mapping`, of a mapping. -/
def flowStart? (mapping : Bool) (l : Lexer) : Option Lexer :=
  let l := l.saveKey.rollValue
  if l.flowDepth = maxFlowDepth then none
  else
    let l := { l with
      candidates := none :: l.candidates
      flowDepth := l.flowDepth + 1
      keyAllowed := true
      mappingBegan := l.mappingBegan || mapping
      bare := if mapping then l.bare else false :: l.bare }
    (l.goTo (l.cursor.skip 1)).skipRest?.map
      (push (if mapping then .flowMappingStart else .flowListStart))

/-- The end of a list or of a mapping. A colon may follow it at once. -/
def flowEnd? (mapping : Bool) (l : Lexer) : Option Lexer := do
  let l ← l.dropKey?
  let l := if l.inFlow then
      { l with flowDepth := l.flowDepth - 1, candidates := l.candidates.drop 1 }
    else l
  let l := l.allowKey false
  let l := if mapping then l else { l.endBare with bare := l.bare.drop 1 }
  let l ← (l.goTo (l.cursor.skip 1)).skipRest?
  let l := if l.inFlow then { l with colonIndex := l.cursor.index } else l
  return l.push (if mapping then .flowMappingEnd else .flowListEnd)

/-- A comma. -/
def comma? (l : Lexer) : Option Lexer := do
  let l := ((← l.dropKey?).allowKey true).endBare
  return (← (l.goTo (l.cursor.skip 1)).skipRest?).push .comma

/-! ### Blocks -/

/-- A dash in front of an item. -/
def item? (l : Lexer) : Option Lexer :=
  if l.inFlow || !l.keyAllowed then none
  else do
    let column := l.cursor.column
    let l := (l.goTo (l.cursor.skip 1)).rollHere column .blockListStart
    let tabbed := (l.cursor.rest.takeWhile isBlank).contains '\t'
    let l ← l.skipRest?
    let next := l.cursor.rest
    if tabbed && next.head? = some '-' && startsWith isSpace (next.drop 1) then none
    else
      let l := if next.head?.any fun c => isBreak c || isFlowMark c then l.rollValue else l
      return ((← l.dropKey?).allowKey true).push .item

/-- A question mark in front of a key. -/
def key? (l : Lexer) : Option Lexer :=
  if !l.inFlow && !l.keyAllowed then none
  else do
    let l :=
      if l.inFlow then { l with mappingBegan := true }
      else l.rollHere l.cursor.column .blockMappingStart
    let l := (← l.dropKey?).allowKey (!l.inFlow)
    let c := l.cursor.skip 1
    let next := c.skipLines (c.rest.length + 1)
    if (c.rest.head?.any fun d => d = ' ' || isBreak d) && next.rest.head? ≠ some '\t' then
      some ((l.goTo next).push .key)
    else none

/-- Puts the start of a key in front of what came since a candidate. -/
def insertKey (bare : Bool) (k : Candidate) (l : Lexer) : Lexer :=
  let tokens := l.tokens.insertIdxIfInBounds k.place .key
  let tokens := if bare then tokens.insertIdxIfInBounds k.place .flowMappingStart else tokens
  let l := (({ l with tokens }).roll k.column k.place .blockMappingStart).rollValue
  { l with candidates := none :: l.candidates.drop 1, keyAllowed := false }

/-- A colon in front of a value. In a list in brackets, a mapping without braces may begin with the
key in front of it. -/
def value? (l : Lexer) : Option Lexer :=
  let candidate := l.candidate?
  let start := l.cursor
  let bare := !l.bare.isEmpty && !l.mappingBegan
  let next := start.skip 1
  let blanks := next.rest.takeWhile isBlank
  let after := (next.rest.drop blanks.length).head?
  if blanks.head? = some '\t' && !blanks.contains ' ' && after.any isWord then none
  else
    let l := { l with cursor := next, bare := if bare then true :: l.bare.drop 1 else l.bare }
    match candidate with
    | some k =>
      if bare && k.line < start.line then none else some ((l.insertKey bare k).push .value)
    | none =>
      let l := if bare then l.push .flowMappingStart else l
      if !l.inFlow && !l.keyAllowed then none
      else
        let l := (l.rollHere start.column .blockMappingStart).rollValue
        some ((l.allowKey (!l.inFlow)).push .value)

/-! ### Scalars and properties -/

/-- The name of an anchor. -/
def anchor? (t : String → Token) (l : Lexer) : Option Lexer :=
  let l := l.saveKey.allowKey false
  let name := (l.cursor.rest.drop 1).takeWhile isAnchorChar
  if name.isEmpty then none
  else some ((l.goTo (l.cursor.skip (name.length + 1))).push (t (String.ofList name)))

/-- A tag. -/
def tag? (l : Lexer) : Option Lexer :=
  let l := l.saveKey.allowKey false
  (l.cursor.tag? l.inFlow).map fun (t, c) => (l.goTo c).push (.tag t)

/-- A block scalar. A key may begin after it. -/
def block? (folded : Bool) (l : Lexer) : Option Lexer :=
  let l := (l.saveKey.allowKey true).unrollValue
  ((l.cursor.skip 1).block? folded l.indent).map fun (cs, c) =>
    (l.goTo c).push (.scalar false (String.ofList cs))

/-- A scalar in quotes. A colon may follow it at once, outside of flow collections only on the line
that it began on. -/
def quoted? (quote : Char) (l : Lexer) : Option Lexer := do
  let l := l.saveKey.allowKey false
  let start := l.cursor
  let (cs, c) ← (start.skip 1).quoted? quote l.indent start.rest.length
  let c ← c.skipRest?
  let isFine :=
    match c.rest.head? with
    | none => true
    | some ':' => l.inFlow || start.line = c.line
    | some d => isBreak d || (l.inFlow && (d = ',' || d = '\x7d' || d = ']'))
  if isFine then
    let l ← (l.goTo c).skipToContent?
    return ({ l with colonIndex := l.cursor.index }).push (.scalar false (String.ofList cs))
  else none

/-- A plain scalar. A key may begin after it on a new line. -/
def plain? (l : Lexer) : Option Lexer :=
  let l := (l.saveKey.allowKey false).unrollValue
  let indent := l.indent + 1
  if l.inFlow && l.cursor.column < indent then none
  else
    (l.cursor.plain? l.inFlow indent (l.cursor.rest.length + 1)).map fun (cs, c) =>
      ((l.goTo c).allowKey c.leading).push (.scalar true (String.ofList cs))

/-! ### The whole text -/

/-- Reads a token that begins with a character. -/
def token? (c : Char) (l : Lexer) : Option Lexer :=
  let spaced := startsWith isSpace (l.cursor.rest.drop 1)
  let closes := l.inFlow &&
    ((l.cursor.rest.drop 1).head?.any isFlowMark || l.cursor.index = l.colonIndex)
  match c with
  | '[' => l.flowStart? false
  | '\x7b' => l.flowStart? true
  | ']' => l.flowEnd? false
  | '\x7d' => l.flowEnd? true
  | ',' => l.comma?
  | '-' => if spaced then l.item? else l.plain?
  | '?' => if spaced then l.key? else l.plain?
  | ':' => if spaced || closes then l.value? else l.plain?
  | '*' => l.anchor? .alias
  | '&' => l.anchor? .anchor
  | '!' => l.tag?
  | '|' => if l.inFlow then l.plain? else l.block? false
  | '>' => if l.inFlow then l.plain? else l.block? true
  | '\'' => l.quoted? '\''
  | '"' => l.quoted? '"'
  | '%' => none
  | '@' => none
  | c => if c = Char.ofNat 0x60 then none else l.plain?

/-- Reads the next token, if there is one; else ends what is open, and gives nothing further. -/
def step? (l : Lexer) : Option (Bool × Lexer) := do
  let l ← (← l.skipToContent?).dropStale?
  let l := l.unroll l.cursor.column
  match l.cursor.rest with
  | [] =>
    if l.candidates.any fun k => k.any Candidate.required then none
    else return (false, l.unroll (-1))
  | c :: _ =>
    let next ←
      if l.cursor.column = 0 && c = '%' then l.directive?
      else if l.cursor.atStart then l.documentMark? .documentStart
      else if l.cursor.atStop then l.documentEnd?
      else if l.cursor.column < l.indent then none
      else l.token? c
    return (true, next)

/-- The tokens of a text, at most `fuel`. -/
def run? : Nat → Lexer → Option (List Token)
  | 0, _ => none
  | fuel + 1, l =>
    match l.step? with
    | none => none
    | some (false, l) => some l.tokens.toList
    | some (true, l) => run? fuel l

end Lexer

/-- The tokens of a text, which ends in front of a character with the code 0. -/
def tokens? (cs : List Char) : Option (List Token) :=
  let cs := cs.takeWhile (· ≠ Char.ofNat 0)
  Lexer.run? (cs.length + 2) { cursor := { rest := cs } }

end ProfileBrowser.Yaml
