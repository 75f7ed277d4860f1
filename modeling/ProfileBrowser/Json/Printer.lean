import ProfileBrowser.Json.Basic
import ProfileBrowser.Binary64.Decimal
/-!
# Writing JSON

Two texts of a value: `compact`, without any blank, and `pretty`, indented by two blanks. In a
string only the quote, the backslash and the controls below the blank are escaped. A float is
written with the fewest digits that read back, positionally while the exponent of its first digit
lies between -5 and 15, and always with a point or an exponent, so that it is never taken for an
integer.
-/

namespace ProfileBrowser.Json

/-! ### Scalars -/

/-- The four hexadecimal digits of a small code. -/
def fourHex (n : Nat) : List Char :=
  let digits := Nat.toDigits 16 n
  List.replicate (4 - digits.length) '0' ++ digits

/-- One character inside a string. -/
def escaped (c : Char) : List Char :=
  if c = '"' then ['\\', '"']
  else if c = '\\' then ['\\', '\\']
  else if c.toNat = 0x8 then ['\\', 'b']
  else if c.toNat = 0xC then ['\\', 'f']
  else if c = '\n' then ['\\', 'n']
  else if c = '\r' then ['\\', 'r']
  else if c = '\t' then ['\\', 't']
  else if c.toNat < 0x20 then '\\' :: 'u' :: fourHex c.toNat
  else [c]

/-- A string between its quotes. -/
def stringText (s : String) : List Char := '"' :: s.toList.flatMap escaped ++ ['"']

/-- An integer. -/
def intText (i : Int) : List Char := (toString i).toList

/-- A finite positive number given by its shortest digits and the exponent of the first of them. -/
def floatDigits (digits : String) (e : Int) : String :=
  if -5 ≤ e ∧ e ≤ 15 then Binary64.positional digits e ".0"
  else
    let mantissa := match digits.toList with
      | [] => ""
      | [d] => d.toString
      | d :: more => d.toString ++ "." ++ String.ofList more
    mantissa ++ (if e < 0 then "e-" else "e+") ++ toString e.natAbs

/-- A float; what has no decimal digits is written as null. -/
def floatText : Binary64 → List Char
  | .finite s m q =>
    let sign := if s then "-" else ""
    if m = 0 then (sign ++ "0.0").toList
    else
      let (digits, e) := Binary64.scientificParts (Binary64.shortest m q)
      (sign ++ floatDigits digits e).toList
  | _ => "null".toList

/-! ### Compact text -/

mutual
/-- The text of a value without blanks. -/
def compact : Json → List Char
  | .null => "null".toList
  | .bool true => "true".toList
  | .bool false => "false".toList
  | .int i => intText i
  | .float x => floatText x
  | .str s => stringText s
  | .arr [] => ['[', ']']
  | .arr (v :: rest) => '[' :: compact v ++ compactItems rest
  | .obj [] => ['\x7b', '\x7d']
  | .obj ((k, v) :: rest) => '\x7b' :: stringText k ++ ':' :: compact v ++ compactMembers rest

/-- The items after the first, and the end of the array. -/
def compactItems : List Json → List Char
  | [] => [']']
  | v :: rest => ',' :: compact v ++ compactItems rest

/-- The members after the first, and the end of the object. -/
def compactMembers : List (String × Json) → List Char
  | [] => ['\x7d']
  | (k, v) :: rest => ',' :: stringText k ++ ':' :: compact v ++ compactMembers rest
end

/-- The compact text as a string. -/
def text (v : Json) : String := String.ofList (compact v)

/-! ### Indented text -/

/-- A new line at a depth, with what follows it. -/
def newline (depth : Nat) (rest : List Char) : List Char :=
  '\n' :: List.replicate (2 * depth) ' ' ++ rest

mutual
/-- The indented text of a value at a depth, with what follows it. -/
def indented (depth : Nat) : Json → List Char → List Char
  | .arr [], after => '[' :: ']' :: after
  | .arr (v :: rest), after =>
    '[' :: newline (depth + 1) (indented (depth + 1) v (indentedItems depth rest after))
  | .obj [], after => '\x7b' :: '\x7d' :: after
  | .obj ((k, v) :: rest), after =>
    '\x7b' :: newline (depth + 1)
      (stringText k ++ ':' :: ' ' :: indented (depth + 1) v (indentedMembers depth rest after))
  | .null, after => "null".toList ++ after
  | .bool true, after => "true".toList ++ after
  | .bool false, after => "false".toList ++ after
  | .int i, after => intText i ++ after
  | .float x, after => floatText x ++ after
  | .str s, after => stringText s ++ after

/-- The items after the first, the end of the array, and what follows it. -/
def indentedItems (depth : Nat) : List Json → List Char → List Char
  | [], after => newline depth (']' :: after)
  | v :: rest, after =>
    ',' :: newline (depth + 1) (indented (depth + 1) v (indentedItems depth rest after))

/-- The members after the first, the end of the object, and what follows it. -/
def indentedMembers (depth : Nat) : List (String × Json) → List Char → List Char
  | [], after => newline depth ('\x7d' :: after)
  | (k, v) :: rest, after =>
    ',' :: newline (depth + 1)
      (stringText k ++ ':' :: ' ' :: indented (depth + 1) v (indentedMembers depth rest after))
end

/-- The indented text as a string. -/
def pretty (v : Json) : String := String.ofList (indented 0 v [])

end ProfileBrowser.Json
