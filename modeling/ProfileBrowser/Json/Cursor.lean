import ProfileBrowser.Json.Decode
import ProfileBrowser.Json.Reader
/-!
# Reading straight from a document

A cursor is the rest of a document and its place. A reading takes what it expects from the front of
it, so of two errors the one that comes first in the document counts, whether it is one of JSON or
one of what was expected.

An error of a record is noticed without a place (`Trouble.loose`); the record or array around it
gives it the place that has been reached when that one is closed.
-/

namespace ProfileBrowser.Json

/-! ### Cursors -/

/-- The rest of a document. -/
structure Cursor where
  rest : List UInt8
  place : Position
deriving Inhabited

/-- What went wrong. -/
inductive Trouble where
  | placed (words : String) (place : Position)
  | loose (words : String)
deriving Inhabited

/-- The message, once there is a place. -/
def Trouble.message (place : Position) : Trouble → String
  | .placed words p => words ++ p.words
  | .loose words => words ++ place.words

/-- Reads something; the cursor behind it counts also after an error. -/
abbrev Scan (α : Type) := Cursor → Except Trouble α × Cursor

namespace Cursor

/-- The start of a document. -/
def start (bytes : List UInt8) : Cursor := ⟨bytes, .start⟩

/-- The cursor without the blanks in front of it. -/
def skip (c : Cursor) : Cursor := go c.place c.rest
where
  go (place : Position) : List UInt8 → Cursor
    | [] => ⟨[], place⟩
    | b :: rest => if isSpace b then go (place.after b) rest else ⟨b :: rest, place⟩

/-- The next byte. -/
def peek? (c : Cursor) : Option UInt8 := c.rest.head?

/-- The cursor behind the next byte. -/
def next (c : Cursor) : Cursor :=
  match c.rest with
  | [] => c
  | b :: rest => ⟨rest, c.place.after b⟩

/-- A fault at the next byte, or at the end of the document. -/
def faultAhead {α : Type} (c : Cursor) (f : Fault) : Except Trouble α × Cursor :=
  (.error (.placed f.words c.next.place), c)

/-- Gives the error of a reading the place that has been reached. -/
def settle {α : Type} : Except Trouble α × Cursor → Except Trouble α × Cursor
  | (.error (.loose words), c) => (.error (.placed words c.place), c)
  | result => result

/-! ### Values -/

/-- Runs the machine up to the end of the value that it is in. -/
def runValue (limit : Option Nat) : State → List UInt8 → Except SyntaxFault (Json × Cursor)
  | s, [] => s.finish.map fun v => (v, ⟨[], s.place⟩)
  | s, b :: rest =>
    let go : Except SyntaxFault (Json × Cursor) :=
      match s.step limit b with
      | .ok s => runValue limit s rest
      | .error e => .error e
    match s.mode with
    | .done v => .ok (v, ⟨b :: rest, s.place⟩)
    | .number negative n =>
      if s.stack.isEmpty then
        match n.step b with
        | .ends =>
          match n.value negative with
          | .ok v => .ok (v, ⟨b :: rest, s.place⟩)
          | .error f => .error ⟨f, s.place⟩
        | _ => go
      else go
    | _ => go

/-- Any value, inside `depth` arrays and objects. -/
def value (limit : Option Nat) (depth : Nat) : Scan Json := fun c =>
  match runValue limit (.initial depth c.place) c.rest with
  | .ok (v, c) => (.ok v, c)
  | .error e => (.error (.placed e.fault.words e.place), c)

/-- An error for a value that is not of the expected kind. A scalar is read to its end; of an array
or an object only the beginning counts. -/
def mismatch {α : Type} (expected : String) : Scan α := fun c =>
  if c.peek? = some 91 then
    (.error (.placed (DecodeError.invalidType (.arr []) expected).message c.place), c)
  else if c.peek? = some 123 then
    (.error (.placed (DecodeError.invalidType (.obj []) expected).message c.place), c)
  else
    match value none 0 c with
    | (.ok v, c) => (.error (.placed (DecodeError.invalidType v expected).message c.place), c)
    | (.error e, c) => (.error e, c)

/-- A whole number of `bits` bits. -/
def whole (bits : Nat) : Scan Nat := fun c =>
  let c := c.skip
  let expected := "u" ++ toString bits
  match c.peek? with
  | none => c.faultAhead .endInValue
  | some b =>
    if b = 45 || isDigit b then
      match value none 0 c with
      | (.ok (.int i), c) =>
        if 0 ≤ i ∧ i < Binary64.twoTo bits then (.ok i.toNat, c)
        else (.error (.placed (DecodeError.invalidValue i expected).message c.place), c)
      | (.ok v, c) => (.error (.placed (DecodeError.invalidType v expected).message c.place), c)
      | (.error e, c) => (.error e, c)
    else mismatch expected c

/-! ### Objects -/

/-- The next key of an object, or none at its end. -/
def key (first : Bool) : Scan (Option String) := fun c =>
  let c := c.skip
  let string (c : Cursor) : Except Trouble (Option String) × Cursor :=
    match value none 0 c with
    | (.ok (.str s), c) => (.ok (some s), c)
    | (.ok _, c) => c.faultAhead .keyNotString
    | (.error e, c) => (.error e, c)
  match c.peek? with
  | none => c.faultAhead .endInObject
  | some b =>
    if b = 125 then (.ok none, c)
    else if first then if b = 34 then string c else c.faultAhead .keyNotString
    else if b ≠ 44 then c.faultAhead .expectedObjectEnd
    else
      let c := c.next.skip
      match c.peek? with
      | none => c.faultAhead .endInValue
      | some b =>
        if b = 34 then string c
        else if b = 125 then c.faultAhead .trailingComma
        else c.faultAhead .keyNotString

/-- The colon after a key. -/
def colon : Scan Unit := fun c =>
  let c := c.skip
  match c.peek? with
  | none => c.faultAhead .endInObject
  | some b => if b = 58 then (.ok (), c.next) else c.faultAhead .expectedColon

/-- The end of an object. -/
def endObject : Scan Unit := fun c =>
  let c := c.skip
  match c.peek? with
  | none => c.faultAhead .endInObject
  | some b =>
    if b = 125 then (.ok (), c.next)
    else if b = 44 then c.faultAhead .trailingComma
    else c.faultAhead .trailingCharacters

/-- Whether an array has another item, and the cursor in front of it. -/
def item (first : Bool) : Scan Bool := fun c =>
  let c := c.skip
  match c.peek? with
  | none => c.faultAhead .endInList
  | some b =>
    if b = 93 then (.ok false, c)
    else if first then (.ok true, c)
    else if b ≠ 44 then c.faultAhead .expectedListEnd
    else
      let c := c.next.skip
      match c.peek? with
      | none => c.faultAhead .endInValue
      | some b => if b = 93 then c.faultAhead .trailingComma else (.ok true, c)

/-- The end of an array. -/
def endList : Scan Unit := fun c =>
  let c := c.skip
  match c.peek? with
  | none => c.faultAhead .endInList
  | some b =>
    if b = 93 then (.ok (), c.next)
    else if b = 44 then
      let c := c.next.skip
      if c.peek? = some 93 then c.faultAhead .trailingComma else c.faultAhead .trailingCharacters
    else c.faultAhead .trailingCharacters

/-- The end of the document. -/
def endDocument : Scan Unit := fun c =>
  let c := c.skip
  if c.rest.isEmpty then (.ok (), c) else c.faultAhead .trailingCharacters

/-- A reading and then the end of what is around it. The end is looked for also after an error, and
gives it its place. -/
def closedBy {α : Type} (close : Scan Unit) (result : Except Trouble α × Cursor) :
    Except Trouble α × Cursor :=
  let (inner, c) := result
  let (ending, c) := close c
  settle
    (match inner, ending with
      | .error e, _ => (.error e, c)
      | .ok _, .error e => (.error e, c)
      | .ok a, .ok () => (.ok a, c))

end Cursor

end ProfileBrowser.Json
