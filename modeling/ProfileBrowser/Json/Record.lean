import ProfileBrowser.Json.Passing
/-!
# Records of two fields

A record whose shape is known is read from the bytes of a document in their order: from an object,
in which the fields stand in any order and may stand beside others, or from an array of the two.
-/

namespace ProfileBrowser.Json

/-- A record of two fields. -/
structure PairShape (α β : Type) where
  /-- What the record is called when something else is found. -/
  expected : String
  /-- What it is called when it is an array with too few items. -/
  expectedItems : String
  firstName : String
  firstScan : Scan α
  secondName : String
  secondScan : Scan β
  /-- Whether other fields are refused. -/
  closed : Bool

namespace PairShape

variable {α β : Type}

/-- The message about a field that does not belong. -/
def unknownField (p : PairShape α β) (name : String) : String :=
  "unknown field `" ++ name ++ "`, expected `" ++ p.firstName ++ "` or `" ++ p.secondName ++ "`"

/-- The members of the record from the next one on. Each takes at least one byte, so `fuel` need not
be more than what is left of the document. -/
def members (p : PairShape α β) : Nat → Bool → Option α → Option β → Scan (α × β)
  | 0, _, _, _ => fun c => c.faultAhead .endInObject
  | fuel + 1, first, a, b => fun c =>
    match Cursor.key first c with
    | (.error e, c) => (.error e, c)
    | (.ok none, c) =>
      match a, b with
      | none, _ => (.error (.loose ("missing field `" ++ p.firstName ++ "`")), c)
      | _, none => (.error (.loose ("missing field `" ++ p.secondName ++ "`")), c)
      | some a, some b => (.ok (a, b), c)
    | (.ok (some name), c) =>
      if name = p.firstName then
        if a.isSome then (.error (.loose ("duplicate field `" ++ name ++ "`")), c)
        else
          match Cursor.colon c with
          | (.error e, c) => (.error e, c)
          | (.ok (), c) =>
            match p.firstScan c with
            | (.error e, c) => (.error e, c)
            | (.ok a, c) => p.members fuel false (some a) b c
      else if name = p.secondName then
        if b.isSome then (.error (.loose ("duplicate field `" ++ name ++ "`")), c)
        else
          match Cursor.colon c with
          | (.error e, c) => (.error e, c)
          | (.ok (), c) =>
            match p.secondScan c with
            | (.error e, c) => (.error e, c)
            | (.ok b, c) => p.members fuel false a (some b) c
      else if p.closed then (.error (.loose (p.unknownField name)), c)
      else
        match Cursor.colon c with
        | (.error e, c) => (.error e, c)
        | (.ok (), c) =>
          match Cursor.pass c with
          | (.error e, c) => (.error e, c)
          | (.ok (), c) => p.members fuel false a b c

/-- The record as an array of its two fields. -/
def items (p : PairShape α β) : Scan (α × β) := fun c =>
  let tooShort (n : Nat) : Trouble :=
    .loose ("invalid length " ++ toString n ++ ", expected " ++ p.expectedItems)
  match Cursor.item true c with
  | (.error e, c) => (.error e, c)
  | (.ok false, c) => (.error (tooShort 0), c)
  | (.ok true, c) =>
    match p.firstScan c with
    | (.error e, c) => (.error e, c)
    | (.ok a, c) =>
      match Cursor.item false c with
      | (.error e, c) => (.error e, c)
      | (.ok false, c) => (.error (tooShort 1), c)
      | (.ok true, c) =>
        match p.secondScan c with
        | (.error e, c) => (.error e, c)
        | (.ok b, c) => (.ok (a, b), c)

/-- The record, with what is made of its fields; that may fail. -/
def scan {γ : Type} (p : PairShape α β) (make : α × β → Except String γ) : Scan γ := fun c =>
  let c := c.skip
  let made (result : Except Trouble (α × β) × Cursor) : Except Trouble γ × Cursor :=
    match result with
    | (.error e, c) => (.error e, c)
    | (.ok ab, c) =>
      match make ab with
      | .ok g => (.ok g, c)
      | .error words => (.error (.loose words), c)
  match c.peek? with
  | none => c.faultAhead .endInValue
  | some b =>
    if b = 123 then
      Cursor.closedBy Cursor.endObject (made (p.members (c.rest.length + 1) true none none c.next))
    else if b = 91 then Cursor.closedBy Cursor.endList (made (p.items c.next))
    else Cursor.mismatch p.expected c

end PairShape

/-- A reading of a whole document. -/
def scanDocument {α : Type} (scan : Scan α) (bytes : List UInt8) : Except String α :=
  match scan (.start bytes) with
  | (.error e, c) => .error (e.message c.place)
  | (.ok a, c) =>
    match Cursor.endDocument c with
    | (.error e, c) => .error (e.message c.place)
    | (.ok (), _) => .ok a

end ProfileBrowser.Json
