import ProfileBrowser.Json.Printer
/-!
# Diagrams of a profile

What the profiling backend answers with: the rows of the function table, the tree of the flame graph
and the call graph. Members of a row that the viewer does not know are kept, so that they survive an
export; the nodes of the tree carry only what the layout needs.
-/

namespace ProfileBrowser

/-! ### Kinds -/

/-- The shapes that a request can ask for. -/
inductive DiagramKind where
  | table | flamegraph | callgraph
deriving DecidableEq, Repr, Inhabited

/-- The name of a shape in a request. -/
def DiagramKind.name : DiagramKind → String
  | .table => "table"
  | .flamegraph => "flamegraph"
  | .callgraph => "callgraph"

/-! ### Table rows -/

/-- One row of the function table. -/
structure TableRow where
  id : UInt64 := 0
  name : String := ""
  /-- The amount spent in the function itself. -/
  self : UInt64 := 0
  /-- The amount spent in the function and everything that it calls. -/
  total : UInt64 := 0
  /-- The members that the viewer does not interpret, with ascending keys. -/
  extra : Json.Members := []
deriving Inhabited

/-- A row with its own members first. -/
def TableRow.toJson (r : TableRow) : Json :=
  .obj ([("id", .word r.id), ("name", .str r.name), ("self", .word r.self),
    ("total", .word r.total)] ++ r.extra)

/-! ### Flame trees -/

/-- A node of the flame graph. -/
inductive FlameNode where
  | mk (id : UInt64) (name : String) (value : UInt64) (children : List FlameNode)
deriving Inhabited

namespace FlameNode

/-- The node's number, which a table row may share. -/
def id : FlameNode → UInt64
  | mk id _ _ _ => id

/-- The function that the node stands for. -/
def name : FlameNode → String
  | mk _ name _ _ => name

/-- The amount that was reported for the node; zero when it was left out. -/
def value : FlameNode → UInt64
  | mk _ _ value _ => value

/-- The nodes that it calls. -/
def children : FlameNode → List FlameNode
  | mk _ _ _ children => children

mutual
/-- The amount used for the layout: the reported one, or the sum over the children if there is
none. The sum is exact, also where it is no word of 64 bits. -/
def weight : FlameNode → Nat
  | mk _ _ value children => if 0 < value then value.toNat else weights children

/-- The sum of the weights of a list of nodes. -/
def weights : List FlameNode → Nat
  | [] => 0
  | n :: rest => weight n + weights rest
end

mutual
/-- How many nodes lie on the longest way down, the node included. -/
def depth : FlameNode → Nat
  | mk _ _ _ children => 1 + depths children

/-- The greatest depth of a list of nodes. -/
def depths : List FlameNode → Nat
  | [] => 0
  | n :: rest => max (depth n) (depths rest)
end

mutual
/-- The first node with a number, parents before children. -/
def find? (wanted : UInt64) : FlameNode → Option FlameNode
  | mk id name value children =>
    if id = wanted then some (mk id name value children) else findAmong wanted children

/-- The first node with a number in a list of trees. -/
def findAmong (wanted : UInt64) : List FlameNode → Option FlameNode
  | [] => none
  | n :: rest =>
    match find? wanted n with
    | some found => some found
    | none => findAmong wanted rest
end

mutual
/-- A node with its members in their own order. -/
def toJson : FlameNode → Json
  | mk id name value children =>
    .obj [("id", .word id), ("name", .str name), ("value", .word value),
      ("children", .arr (toJsons children))]

/-- A list of nodes. -/
def toJsons : List FlameNode → List Json
  | [] => []
  | n :: rest => toJson n :: toJsons rest
end

end FlameNode

/-! ### The payload -/

/-- The diagrams of one answer. -/
structure Diagrams where
  /-- What the amounts count. -/
  unit : String := ""
  table : List TableRow := []
  flame : Option FlameNode := none
  callGraph : Option Json := none
deriving Inhabited

namespace Diagrams

/-- The call graph as a text to show: a string is shown as it is, anything else indented, and
nothing as the empty text. -/
def topology (d : Diagrams) : String :=
  match d.callGraph with
  | none => ""
  | some .null => ""
  | some (.str s) => s
  | some v => v.pretty

/-- Keeps only the parts of the wanted kinds. -/
def retain (kinds : List DiagramKind) (d : Diagrams) : Diagrams :=
  { unit := d.unit
    table := if kinds.contains .table then d.table else []
    flame := if kinds.contains .flamegraph then d.flame else none
    callGraph := if kinds.contains .callgraph then d.callGraph else none }

/-- The diagrams with their members in their own order. -/
def toJson (d : Diagrams) : Json :=
  .obj [("unit", .str d.unit), ("table_data", .arr (d.table.map TableRow.toJson)),
    ("flame_data", (d.flame.map FlameNode.toJson).getD .null),
    ("call_graph_data", d.callGraph.getD .null)]

end Diagrams

end ProfileBrowser
