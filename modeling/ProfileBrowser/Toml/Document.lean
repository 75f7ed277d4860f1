import ProfileBrowser.Toml.Scalar
/-!
# TOML documents

Tables, arrays and whole documents of the TOML format. A table may be written in several ways (by a
header, by dotted keys, inside braces), and how it was written decides what may be added to it:
while a document is read every table remembers its origin.
-/

namespace ProfileBrowser.Toml

open Reader

/-! ### Tables while they are read -/

/-- How a table came about. -/
inductive Origin where
  /-- By a header of a table inside it. -/
  | implied
  /-- By a header of its own. -/
  | header
  /-- By dotted keys. -/
  | dotted
deriving DecidableEq, Repr, Inhabited

/-- What belongs to a key while a document is read. -/
inductive Node where
  /-- A complete value, to which nothing can be added. -/
  | value (v : Json)
  | table (origin : Origin) (entries : List (String × Node))
  /-- An array of tables, the last first. -/
  | tables (items : List (List (String × Node)))

/-- The entries of a table. -/
abbrev Entries := List (String × Node)

namespace Entries

/-- What belongs to a key. -/
def get? (key : String) (es : Entries) : Option Node := (es.find? (·.1 = key)).map (·.2)

/-- Sets what belongs to a key. -/
def set (key : String) (n : Node) (es : Entries) : Entries :=
  (key, n) :: es.filter (·.1 ≠ key)

/-- Changes the table at a path. Missing tables are made; whether the path is that of a header or of
a dotted key decides through which tables it may go. -/
def change (dotted : Bool) (f : Entries → Option Entries) : List String → Entries → Option Entries
  | [], es => f es
  | key :: rest, es =>
    match get? key es with
    | none => do
      let inner ← change dotted f rest []
      return set key (.table (if dotted then .dotted else .implied) inner) es
    | some (.table origin inner) =>
      if dotted && origin = .header then none
      else do return set key (.table origin (← change dotted f rest inner)) es
    | some (.tables (last :: before)) =>
      if dotted then none
      else do return set key (.tables ((← change dotted f rest last) :: before)) es
    | _ => none

/-- Adds a value at a path of dotted keys. -/
def addValue (keys : List String) (v : Json) (es : Entries) : Option Entries :=
  match keys.getLast? with
  | none => none
  | some key =>
    change true (fun es => if (get? key es).isSome then none else some (set key (.value v) es))
      keys.dropLast es

/-- Adds a table with a header of its own. -/
def addTable (keys : List String) (es : Entries) : Option Entries :=
  match keys.getLast? with
  | none => none
  | some key =>
    change false
      (fun es =>
        match get? key es with
        | none => some (set key (.table .header []) es)
        | some (.table .implied inner) => some (set key (.table .header inner) es)
        | _ => none)
      keys.dropLast es

/-- Adds a table to an array of tables. -/
def addItem (keys : List String) (es : Entries) : Option Entries :=
  match keys.getLast? with
  | none => none
  | some key =>
    change false
      (fun es =>
        match get? key es with
        | none => some (set key (.tables [[]]) es)
        | some (.tables items) => some (set key (.tables ([] :: items)) es)
        | _ => none)
      keys.dropLast es

end Entries

mutual
/-- What belongs to a key as a value. -/
def Node.toJson : Node → Json
  | .value v => v
  | .table _ es => .obj (entriesJson es)
  | .tables items => .arr (itemsJson items [])

/-- The entries of a table as members. -/
def entriesJson : List (String × Node) → Json.Members
  | [] => []
  | (key, n) :: rest => Json.Members.insert key n.toJson (entriesJson rest)

/-- The tables of an array in front of those that are known. -/
def itemsJson : List (List (String × Node)) → List Json → List Json
  | [], done => done
  | es :: rest, done => itemsJson rest (.obj (entriesJson es) :: done)
end

/-! ### Keys -/

/-- A key. -/
def key : Reader String := do
  match ← peek? with
  | some '"' | some '\'' => lineString
  | _ =>
    let cs ← run fun c => c.isAlphanum || c = '_' || c = '-'
    require (!cs.isEmpty)
    return String.ofList cs

/-- Keys with points between them, over at most `fuel` of them. -/
def keys : Nat → Reader (List String)
  | 0 => do require false; return []
  | fuel + 1 => do
    let k ← key
    let before ← get
    blanks
    if ← char? '.' then
      blanks
      return k :: (← keys fuel)
    else
      set before
      return [k]

/-! ### Values -/

/-- How deep arrays and tables in braces may be nested. -/
def maxNesting : Nat := 80

mutual
/-- A value, nested at most `depth` deep. -/
def value (depth : Nat) : Reader Json := do
  match ← peek?, depth with
  | some '"', _ | some '\'', _ => return .str (← string)
  | some '[', depth + 1 =>
    char '['
    return .arr (← items depth (← get).length)
  | some '\x7b', depth + 1 =>
    char '\x7b'
    return .obj (entriesJson (← members depth (← get).length []))
  | some '[', 0 | some '\x7b', 0 => require false; return .null
  | _, _ => bareScalar
termination_by (depth, 0)

/-- The items of an array up to its end, over at most `count` of them. -/
def items (depth : Nat) : Nat → Reader (List Json)
  | 0 => do require false; return []
  | count + 1 => do
    gap (← get).length
    if ← char? ']' then return []
    let v ← value depth
    gap (← get).length
    if ← char? ',' then return v :: (← items depth count)
    char ']'
    return [v]
termination_by count => (depth, count + 1)

/-- The members of a table in braces up to its end, over at most `count` of them. -/
def members (depth : Nat) : Nat → Entries → Reader Entries
  | 0, _ => do require false; return []
  | count + 1, es => do
    gap (← get).length
    if ← char? '\x7d' then return es
    let ks ← keys (← get).length
    gap (← get).length
    char '='
    gap (← get).length
    let v ← value depth
    match es.addValue ks v with
    | none => require false; return []
    | some es =>
      gap (← get).length
      if ← char? ',' then members depth count es
      else
        char '\x7d'
        return es
termination_by count => (depth, count + 1)
end

/-! ### Documents -/

/-- A document while it is read. -/
structure Progress where
  root : Entries := []
  /-- The table that the keys belong to. -/
  current : List String := []

/-- A header. -/
def header (p : Progress) : Reader Progress := do
  char '['
  let isItem ← char? '['
  blanks
  let ks ← keys (← get).length
  blanks
  char ']'
  if isItem then char ']'
  match if isItem then p.root.addItem ks else p.root.addTable ks with
  | some root => return { root, current := ks }
  | none => require false; return p

/-- A key with its value. -/
def pair (p : Progress) : Reader Progress := do
  let ks ← keys (← get).length
  blanks
  char '='
  blanks
  let v ← value maxNesting
  match Entries.change false (Entries.addValue ks v) p.current p.root with
  | some root => return { p with root }
  | none => require false; return p

/-- The lines of a document, at most `fuel` of them. -/
def lines : Nat → Progress → Reader Progress
  | 0, p => return p
  | fuel + 1, p => do
    blanks
    let p ← match ← peek? with
      | none | some '#' | some '\n' | some '\r' => pure p
      | some '[' => header p
      | some _ => pair p
    blanks
    comment
    if (← get).isEmpty then return p
    require (← newline?)
    lines fuel p

/-- Reads a document; nothing is said of a faulty one. A byte order mark is passed over. -/
def read? (text : String) : Option Json :=
  let cs := match text.toList with
    | c :: rest => if c = Char.ofNat 0xFEFF then rest else c :: rest
    | [] => []
  match lines (cs.length + 1) {} cs with
  | some (p, []) => some (.obj (entriesJson p.root))
  | _ => none

end ProfileBrowser.Toml
