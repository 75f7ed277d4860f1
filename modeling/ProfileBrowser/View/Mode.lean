import ProfileBrowser.Text.Case
/-!
# View modes

Which renderers are on the screen, and the order in which the user steps through them.
-/

namespace ProfileBrowser

/-- Which renderers are visible. -/
inductive Mode where
  /-- Table and flame graph side by side. -/
  | combine
  | table
  | flame
  /-- The call graph. -/
  | topo
deriving DecidableEq, Repr, Inhabited

namespace Mode

/-- All modes in the order of their tabs. -/
def all : List Mode := [combine, table, flame, topo]

/-- The mode after this one, around the end. -/
def next : Mode → Mode
  | combine => table
  | table => flame
  | flame => topo
  | topo => combine

/-- The mode before this one, around the start. -/
def prev : Mode → Mode
  | combine => topo
  | table => combine
  | flame => table
  | topo => flame

/-- The name on a tab. -/
def label : Mode → String
  | combine => "Combine"
  | table => "Table"
  | flame => "Flame"
  | topo => "Topo"

/-- The name in settings and in a state file. -/
def name : Mode → String
  | combine => "combine"
  | table => "table"
  | flame => "flame"
  | topo => "topo"

/-- The place among the tabs. -/
def index : Mode → Nat
  | combine => 0
  | table => 1
  | flame => 2
  | topo => 3

/-- Whether the table is visible. -/
def showsTable : Mode → Bool
  | combine | table => true
  | flame | topo => false

/-- Whether the flame graph is visible. -/
def showsFlame : Mode → Bool
  | combine | flame => true
  | table | topo => false

/-- The mode with exactly this name. -/
def named? (s : String) : Option Mode := all.find? fun m => m.name = s

/-- The mode that a user names, in any case and with the other names of two of them; an error is the
text with its capitals made small. -/
def read (s : String) : Except String Mode :=
  let small := Text.asciiLower s
  match named? small with
  | some m => .ok m
  | none =>
    if small = "flamegraph" then .ok flame
    else if small = "callgraph" then .ok topo
    else .error small

/-- What is said of a text that names no mode. -/
def unknownMessage (small : String) : String := "unknown view mode: " ++ small

/-! ### Tabs -/

/-- The text of a mode's tab. -/
def tabText (m : Mode) : String := " " ++ toString (m.index + 1) ++ ":" ++ m.label ++ " "

/-- The tab at a column, among tabs that start at `start`. A tab has a blank on both sides of its
text, and between two tabs is one column. -/
def tabAmong (x start : Nat) : List Mode → Option Mode
  | [] => none
  | m :: rest =>
    let stop := start + m.tabText.length + 2
    if start ≤ x ∧ x < stop then some m else tabAmong x (stop + 1) rest

/-- The tab at a column of a tab bar that starts at `left`. -/
def tabAt (x left : Nat) : Option Mode := tabAmong x left all

end Mode

end ProfileBrowser
