/-!
# Colours by name

A frame's colour is picked by a hash of its name, so a function keeps its colour whenever the graph
is drawn again.
-/

namespace ProfileBrowser.Flame

/-- The FNV-1a hash of the bytes of a name. -/
def nameHash (name : String) : UInt32 :=
  name.toUTF8.toList.foldl (fun hash b => (hash ^^^ b.toUInt32) * 0x01000193) 0x811C9DC5

/-- One of four by name. -/
def pick {α : Type} (palette : α × α × α × α) (name : String) : α :=
  let (a, b, c, d) := palette
  match (nameHash name).toNat % 4 with
  | 0 => a
  | 1 => b
  | 2 => c
  | _ => d

end ProfileBrowser.Flame
