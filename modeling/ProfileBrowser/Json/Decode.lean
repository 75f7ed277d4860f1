import ProfileBrowser.Json.Printer
import ProfileBrowser.Text.Quoted
import ProfileBrowser.Word
/-!
# Decoding JSON values

Reading a typed value out of a JSON value, with the errors that name what was found and what was
expected. Only the errors' words depend on the found value; which values are accepted is said by the
functions below and by the decoders built on them.
-/

namespace ProfileBrowser.Json

/-- Why a value cannot be decoded. -/
inductive DecodeError where
  /-- A value of the wrong kind. -/
  | invalidType (found : Json) (expected : String)
  /-- An integer out of range. -/
  | invalidValue (found : Int) (expected : String)
  /-- More items than fields. -/
  | tooManyItems (count : Nat)
deriving Inhabited

/-- How a message names a value. -/
def described : Json → String
  | .null => "null"
  | .bool b => "boolean `" ++ (if b then "true" else "false") ++ "`"
  | .int i => "integer `" ++ toString i ++ "`"
  | .float x => "floating point `" ++ String.ofList (floatText x) ++ "`"
  | .str s => "string " ++ Text.quoted s
  | .arr _ => "sequence"
  | .obj _ => "map"

/-- The message of an error. -/
def DecodeError.message : DecodeError → String
  | .invalidType found expected =>
    "invalid type: " ++ described found ++ ", expected " ++ expected
  | .invalidValue found expected =>
    "invalid value: integer `" ++ toString found ++ "`, expected " ++ expected
  | .tooManyItems count =>
    "invalid length " ++ toString count ++ ", expected fewer elements in array"

/-- A string. -/
def decodeString : Json → Except DecodeError String
  | .str s => .ok s
  | v => .error (.invalidType v "a string")

/-- An unsigned word. -/
def decodeWord : Json → Except DecodeError UInt64
  | .int i =>
    if 0 ≤ i ∧ i < Word.count then .ok (UInt64.ofNat i.toNat) else .error (.invalidValue i "u64")
  | v => .error (.invalidType v "u64")

/-- An array, item by item. -/
def decodeItems {α : Type} (item : Json → Except DecodeError α) : Json → Except DecodeError (List α)
  | .arr items => items.mapM item
  | v => .error (.invalidType v "a sequence")

/-- Null, or a value. -/
def decodeOptional {α : Type} (value : Json → Except DecodeError α) :
    Json → Except DecodeError (Option α)
  | .null => .ok none
  | v => (value v).map some

end ProfileBrowser.Json
