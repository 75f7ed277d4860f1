import ProfileBrowser.Profile.Diagrams
import ProfileBrowser.Json.Decode
/-!
# Decoding diagrams

Diagrams out of a JSON value. A record is read member by member in the order of the keys, so the
first faulty key decides the error; a member that is missing has its default, and one that is
unknown is passed over, or kept in the case of a table row. The diagrams and a flame node can also
be written as an array of their fields, of which the last ones may be missing.
-/

namespace ProfileBrowser

open Json

/-! ### Table rows -/

/-- Takes one member into a row. -/
def TableRow.takeMember (r : TableRow) (m : String × Json) : Except DecodeError TableRow :=
  if m.1 = "id" then do return { r with id := ← decodeWord m.2 }
  else if m.1 = "name" then do return { r with name := ← decodeString m.2 }
  else if m.1 = "self" then do return { r with self := ← decodeWord m.2 }
  else if m.1 = "total" then do return { r with total := ← decodeWord m.2 }
  else .ok { r with extra := Members.insert m.1 m.2 r.extra }

/-- A row out of an object. -/
def TableRow.decode : Json → Except DecodeError TableRow
  | .obj ms => ms.foldlM TableRow.takeMember {}
  | v => .error (.invalidType v "struct TableRow")

/-! ### Flame trees -/

namespace FlameNode

/-- The fields of a node in the order in which an array holds them. -/
def fields : List String := ["id", "name", "value", "children"]

/-- Takes a field that is no list of nodes; an unknown one changes nothing. -/
def takeScalar (n : FlameNode) (key : String) (v : Json) : Except DecodeError FlameNode :=
  if key = "id" then do return mk (← decodeWord v) n.name n.value n.children
  else if key = "name" then do return mk n.id (← decodeString v) n.value n.children
  else if key = "value" then do return mk n.id n.name (← decodeWord v) n.children
  else .ok n

mutual
/-- A node out of an object or an array. -/
def decode : Json → Except DecodeError FlameNode
  | .obj ms => decodeMembers (mk 0 "" 0 []) ms
  | .arr items => decodeFields (mk 0 "" 0 []) 0 items
  | v => .error (.invalidType v "struct FlameNode")

/-- Takes members into a node. -/
def decodeMembers : FlameNode → List (String × Json) → Except DecodeError FlameNode
  | n, [] => .ok n
  | n, (key, v) :: rest =>
    if key = "children" then do decodeMembers (mk n.id n.name n.value (← decodeChildren v)) rest
    else do decodeMembers (← takeScalar n key v) rest

/-- Takes the items of an array into a node, from the field of the given index on. -/
def decodeFields : FlameNode → Nat → List Json → Except DecodeError FlameNode
  | n, _, [] => .ok n
  | n, i, v :: rest =>
    if i = 3 then do decodeFields (mk n.id n.name n.value (← decodeChildren v)) 4 rest
    else if i < 3 then do decodeFields (← takeScalar n (fields.getD i "") v) (i + 1) rest
    else .error (.tooManyItems (i + 1 + rest.length))

/-- The children of a node. -/
def decodeChildren : Json → Except DecodeError (List FlameNode)
  | .arr items => decodeNodes items
  | v => .error (.invalidType v "a sequence")

/-- A list of nodes. -/
def decodeNodes : List Json → Except DecodeError (List FlameNode)
  | [] => .ok []
  | v :: rest => do
    let n ← decode v
    let more ← decodeNodes rest
    return n :: more
end

end FlameNode

/-! ### The payload -/

namespace Diagrams

/-- The fields of the diagrams in the order in which an array holds them. -/
def fields : List String := ["unit", "table_data", "flame_data", "call_graph_data"]

/-- Takes one member into the diagrams. -/
def takeMember (d : Diagrams) (m : String × Json) : Except DecodeError Diagrams :=
  if m.1 = "unit" then do return { d with unit := ← decodeString m.2 }
  else if m.1 = "table_data" then do return { d with table := ← decodeItems TableRow.decode m.2 }
  else if m.1 = "flame_data" then do
    return { d with flame := ← decodeOptional FlameNode.decode m.2 }
  else if m.1 = "call_graph_data" then
    do return { d with callGraph := ← decodeOptional (fun v => .ok v) m.2 }
  else .ok d

/-- Diagrams out of an object or an array. -/
def decode : Json → Except DecodeError Diagrams
  | .obj ms => ms.foldlM takeMember {}
  | .arr items => do
    let d ← (fields.zip items).foldlM takeMember {}
    if fields.length < items.length then throw (.tooManyItems items.length)
    return d
  | v => .error (.invalidType v "struct Diagrams")

end Diagrams

end ProfileBrowser
