/-!
# Colours and styles

A colour is one of the terminal's own or given by its components. A style says what it changes and
leaves the rest alone, so styles are laid over one another.
-/

namespace ProfileBrowser

/-! ### Colours -/

/-- A colour of a terminal. -/
inductive Colour where
  /-- The terminal's own foreground or background. -/
  | reset
  | black | gray | darkGray | blue | lightBlue | cyan | magenta
  | rgb (red green blue : UInt8)
deriving DecidableEq, Repr, Inhabited

/-- Two hexadecimal digits. -/
def Colour.component (n : UInt8) : List Char :=
  let digit (d : Nat) : Char := (Nat.digitChar d).toUpper
  [digit (n.toNat / 16), digit (n.toNat % 16)]

/-- The name of a colour. -/
def Colour.name : Colour → String
  | .reset => "Reset"
  | .black => "Black"
  | .gray => "Gray"
  | .darkGray => "DarkGray"
  | .blue => "Blue"
  | .lightBlue => "LightBlue"
  | .cyan => "Cyan"
  | .magenta => "Magenta"
  | .rgb r g b => String.ofList ('#' :: component r ++ component g ++ component b)

/-! ### Modifiers -/

/-- How a character is set off. -/
structure Modifiers where
  bold : Bool := false
  dim : Bool := false
  reversed : Bool := false
deriving DecidableEq, Repr, Inhabited

namespace Modifiers

/-- Both together. -/
def union (a b : Modifiers) : Modifiers :=
  ⟨a.bold || b.bold, a.dim || b.dim, a.reversed || b.reversed⟩

/-- The names of what is set, in a fixed order. -/
def names (m : Modifiers) : List String :=
  (if m.bold then ["BOLD"] else []) ++ (if m.dim then ["DIM"] else []) ++
    (if m.reversed then ["REVERSED"] else [])

/-- The names as one text. -/
def text (m : Modifiers) : String := if m.names.isEmpty then "NONE" else " | ".intercalate m.names

end Modifiers

/-! ### Styles -/

/-- What is laid over a cell; an absent colour is left alone. -/
structure Style where
  foreground : Option Colour := none
  background : Option Colour := none
  modifiers : Modifiers := {}
deriving DecidableEq, Repr, Inhabited

namespace Style

/-- A style that changes nothing. -/
def plain : Style := {}

/-- A foreground. -/
def ink (c : Colour) : Style := { foreground := some c }

/-- Bold letters. -/
def bold : Style := { modifiers := { bold := true } }

/-- Faint letters. -/
def dim : Style := { modifiers := { dim := true } }

end Style

end ProfileBrowser
