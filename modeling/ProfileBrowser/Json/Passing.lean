import ProfileBrowser.Json.Cursor
/-!
# Passing over values

A value that nothing is wanted of is not read but passed over. Less is asked of it than of one that
is read: a number may be out of range, a code in a string need not be that of a character, and
values may be nested as deep as they like. Its faults differ as well, for nothing is known of it but
which array or object is open.
-/

namespace ProfileBrowser.Json.Cursor

/-! ### Scalars -/

/-- A fault at a place. -/
def faultAt {α : Type} (place : Position) (f : Fault) : Except Trouble α × Cursor :=
  (.error (.placed f.words place), ⟨[], place⟩)

/-- Passes over the rest of a string. -/
def passString (place : Position) : List UInt8 → Except Trouble Unit × Cursor
  | [] => faultAt place .endInString
  | 34 :: rest => (.ok (), ⟨rest, place.after 34⟩)
  | 92 :: 117 :: a :: b :: c :: d :: rest =>
    let place := [92, 117, a, b, c, d].foldl Position.after place
    if (codeValue [d, c, b, a]).isSome then passString place rest
    else faultAt place .invalidEscape
  | [92] => faultAt (place.after 92) .endInString
  | 92 :: b :: rest =>
    if b = 117 then faultAt ((92 :: b :: rest).foldl Position.after place) .endInString
    else
      let place := (place.after 92).after b
      if (escapeChar b).isSome then passString place rest else faultAt place .invalidEscape
  | b :: rest =>
    if b < 32 then faultAt place .controlCharacter else passString (place.after b) rest

/-- The cursor behind the digits that come next. -/
def skipDigits (c : Cursor) : Cursor :=
  let digits := c.rest.takeWhile isDigit
  ⟨c.rest.drop digits.length, digits.foldl Position.after c.place⟩

/-- Whether an exponent mark comes next. -/
def atMark (c : Cursor) : Bool := c.peek? = some 101 || c.peek? = some 69

/-- Passes over an exponent. -/
def passExponent : Scan Unit := fun c =>
  if c.atMark then
    let c := c.next
    let c := if c.peek? = some 43 || c.peek? = some 45 then c.next else c
    if c.peek?.any isDigit then (.ok (), c.skipDigits) else c.faultAhead .invalidNumber
  else (.ok (), c)

/-- Passes over a number without its sign. -/
def passNumber : Scan Unit := fun c =>
  if !c.peek?.any isDigit then c.faultAhead .invalidNumber
  else
    let isZero := c.peek? = some 48
    let c := if isZero then c.next else c.skipDigits
    if isZero && c.peek?.any isDigit then c.faultAhead .invalidNumber
    else if c.peek? = some 46 then
      let c := c.next
      if c.peek?.any isDigit then passExponent c.skipDigits else c.faultAhead .invalidNumber
    else passExponent c

/-- Passes over the rest of a word. -/
def passWord : List UInt8 → Scan Unit
  | [], c => (.ok (), c)
  | b :: word, c =>
    match c.peek? with
    | none => c.faultAhead .endInValue
    | some d => if d = b then passWord word c.next else c.faultAhead .expectedIdent

/-- Passes over a scalar that begins with a byte. -/
def passScalar (b : UInt8) : Scan Unit := fun c =>
  if b = 110 then passWord [117, 108, 108] c.next
  else if b = 116 then passWord [114, 117, 101] c.next
  else if b = 102 then passWord [97, 108, 115, 101] c.next
  else if b = 45 then passNumber c.next
  else if isDigit b then passNumber c
  else if b = 34 then passString c.next.place c.next.rest
  else c.faultAhead .expectedValue

/-! ### Arrays and objects -/

/-- What may be open around a value. -/
inductive Enclosure where
  | list
  | object
deriving DecidableEq, Repr, Inhabited

/-- The byte at the end. -/
def Enclosure.last : Enclosure → UInt8
  | .list => 93
  | .object => 125

/-- The fault of a document that ends inside. -/
def Enclosure.cut : Enclosure → Fault
  | .list => .endInList
  | .object => .endInObject

/-- The fault of anything but a comma or the end after a value. -/
def Enclosure.strange : Enclosure → Fault
  | .list => .expectedListEnd
  | .object => .expectedObjectEnd

/-- Passes over a key and its colon. -/
def passKey : Scan Unit := fun c =>
  let c := c.skip
  match c.peek? with
  | none => c.faultAhead .endInObject
  | some b =>
    if b ≠ 34 then c.faultAhead .keyNotString
    else
      match passString c.next.place c.next.rest with
      | (.error e, c) => (.error e, c)
      | (.ok (), c) => colon c

mutual
/-- Passes over a value and the ends of all that is open around it, the innermost first, in at most
`fuel` steps. -/
def passValue : Nat → List Enclosure → Scan Unit
  | 0, _ => fun c => c.faultAhead .endInValue
  | fuel + 1, around => fun c =>
    let c := c.skip
    match c.peek? with
    | none => c.faultAhead .endInValue
    | some b =>
      if b = 91 then passEnd fuel false (.list :: around) c.next
      else if b = 123 then passEnd fuel false (.object :: around) c.next
      else
        match passScalar b c with
        | (.error e, c) => (.error e, c)
        | (.ok (), c) => passEnd fuel true around c

/-- Passes over the ends of all that is open. What is innermost has a value already, or may be
empty. -/
def passEnd : Nat → Bool → List Enclosure → Scan Unit
  | _, _, [] => fun c => (.ok (), c)
  | 0, _, e :: _ => fun c => c.faultAhead e.cut
  | fuel + 1, filled, e :: around => fun c =>
    let c := c.skip
    let another (c : Cursor) : Except Trouble Unit × Cursor :=
      match e with
      | .list => passValue fuel (e :: around) c
      | .object =>
        match passKey c with
        | (.error t, c) => (.error t, c)
        | (.ok (), c) => passValue fuel (e :: around) c
    match c.peek? with
    | none => c.faultAhead e.cut
    | some b =>
      if b = e.last then passEnd fuel true around c.next
      else if !filled then another c
      else if b = 44 then another c.next
      else c.faultAhead e.strange
end

/-- Passes over a value. -/
def pass : Scan Unit := fun c => passValue (2 * c.rest.length + 2) [] c

end ProfileBrowser.Json.Cursor
