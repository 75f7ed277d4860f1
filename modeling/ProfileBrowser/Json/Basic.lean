import ProfileBrowser.Binary64.Basic
import ProfileBrowser.Word
/-!
# JSON values

A JSON value as this program keeps it. A number is an integer when it fits into 64 bits, signed or
unsigned, and a binary64 number otherwise; the two are never equal. An object is a list of members,
so that a record can be written in its own order; an object that is built by `insert` has its keys
in ascending order, each once.
-/

namespace ProfileBrowser

/-- A JSON value. -/
inductive Json where
  | null
  | bool (b : Bool)
  /-- An integer; `Json.fits` bounds the ones that occur. -/
  | int (i : Int)
  | float (x : Binary64)
  | str (s : String)
  | arr (items : List Json)
  | obj (members : List (String × Json))
deriving Inhabited

namespace Json

/-! ### Integers -/

/-- The integers that a number holds exactly: those of a signed or an unsigned 64-bit word. -/
def fits (i : Int) : Prop := -(Word.signedCount : Int) ≤ i ∧ i < Word.count

instance (i : Int) : Decidable (fits i) := inferInstanceAs (Decidable (_ ∧ _))

/-- An unsigned word as a number. -/
def word (n : UInt64) : Json := .int n.toNat

/-! ### Members -/

/-- The members of an object. -/
abbrev Members := List (String × Json)

/-- Puts a member in its place among members with ascending keys, over one of the same key. -/
def Members.insert (key : String) (v : Json) : Members → Members
  | [] => [(key, v)]
  | (k, w) :: rest =>
    if key < k then (key, v) :: (k, w) :: rest
    else if key = k then (key, v) :: rest
    else (k, w) :: Members.insert key v rest

/-- The value of a key. -/
def Members.get? (key : String) : Members → Option Json
  | [] => none
  | (k, v) :: rest => if key = k then some v else Members.get? key rest

/-- The members without those of one key. -/
def Members.erase (key : String) (ms : Members) : Members := ms.filter (·.1 ≠ key)

/-- The members with ascending keys; of two with one key the later counts. -/
def Members.ofList (ms : List (String × Json)) : Members :=
  ms.foldl (fun acc m => Members.insert m.1 m.2 acc) []

/-- The text of a string value. -/
def asString? : Json → Option String
  | .str s => some s
  | _ => none

/-- The value of a boolean. -/
def asBool? : Json → Option Bool
  | .bool b => some b
  | _ => none

mutual
/-- The value with the members of every object in ascending order of their keys. -/
def sorted : Json → Json
  | .arr xs => .arr (sortedItems xs)
  | .obj ms => .obj (sortedMembers ms)
  | v => v

/-- `sorted` on the items of an array. -/
def sortedItems : List Json → List Json
  | [] => []
  | v :: rest => sorted v :: sortedItems rest

/-- `sorted` on the members of an object. -/
def sortedMembers : List (String × Json) → Members
  | [] => []
  | (k, v) :: rest =>
    let tail := sortedMembers rest
    if (Members.get? k tail).isSome then tail else Members.insert k (sorted v) tail
end

end Json

end ProfileBrowser
