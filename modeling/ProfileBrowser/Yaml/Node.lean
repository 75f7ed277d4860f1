import ProfileBrowser.Binary64.Literal
import ProfileBrowser.Json.Basic
import ProfileBrowser.Text.Digits
import ProfileBrowser.Word
import ProfileBrowser.Yaml.Tag
/-!
# Nodes

The values that a YAML document consists of. A plain scalar is a number or another thing than a text
if it looks like one and its tag does not say otherwise. Keys keep the spelling of a float.
-/

namespace ProfileBrowser.Yaml

/-- A key of a mapping. -/
inductive Key where
  | bool (b : Bool)
  | int (i : Int)
  | real (text : String)
  | text (s : String)
deriving DecidableEq, Repr, Inhabited

/-- A value. -/
inductive Node where
  | null
  | bool (b : Bool)
  | int (i : Int)
  /-- A float as it is written. -/
  | real (text : String)
  | text (s : String)
  | list (items : List Node)
  | mapping (members : List (Key × Node))
  /-- What cannot be told: a scalar that its tag does not fit, or a node inside of itself. -/
  | unknown
deriving Inhabited

/-! ### Scalars -/

/-- An integer of 64 bits. -/
def integer? (base : Nat) (cs : List Char) : Option Int :=
  let (negative, ds) := match cs with
    | '-' :: ds => (true, ds)
    | '+' :: ds => (false, ds)
    | ds => (false, ds)
  (Text.number? base ds).bind fun n =>
    let i : Int := if negative then -n else n
    if Word.isSigned i then some i else none

/-- The words for floats that are not finite. -/
def unboundedWords : List String :=
  [".inf", ".Inf", ".INF", "+.inf", "+.Inf", "+.INF", "-.inf", "-.Inf", "-.INF", ".nan", ".NaN",
    ".NAN"]

/-- Whether a text is that of a float: one of the words, or a literal with a digit. -/
def isReal (s : String) : Bool :=
  let cs := s.toList
  unboundedWords.contains s || (cs.any Char.isDigit && (Binary64.ofLiteral? cs).isSome)

namespace Node

/-- What a plain scalar without a tag stands for. -/
def ofPlain (s : String) : Node :=
  let cs := s.toList
  let marked := match cs with
    | '0' :: 'x' :: ds => integer? 16 ds
    | '0' :: 'o' :: ds => integer? 8 ds
    | '+' :: ds => integer? 10 ds
    | _ => none
  match marked <|> integer? 10 cs with
  | some i => .int i
  | none =>
    if ["", "~", "null"].contains s then .null
    else if ["true", "True", "TRUE"].contains s then .bool true
    else if ["false", "False", "FALSE"].contains s then .bool false
    else if isReal s then .real s
    else .text s

/-- What the handle `!!` stands for. -/
def standardHandle : String := "tag:yaml.org,2002:"

/-- What a plain scalar with a tag stands for. -/
def ofTagged (tag : Tag) (s : String) : Node :=
  if tag.handle ≠ standardHandle then .text s
  else
    match tag.suffix with
    | "bool" => if s = "true" then .bool true else if s = "false" then .bool false else .unknown
    | "int" => ((integer? 10 s.toList).map int).getD .unknown
    | "float" => if isReal s then .real s else .unknown
    | "null" => if s = "~" || s = "null" then .null else .unknown
    | _ => .text s

/-- What a scalar stands for. -/
def ofScalar (plain : Bool) (tag : Option Tag) (s : String) : Node :=
  if plain then (tag.map (ofTagged · s)).getD (ofPlain s) else .text s

/-! ### Mappings -/

/-- The key that a value is, if it may be one. -/
def key? : Node → Option Key
  | .bool b => some (.bool b)
  | .int i => some (.int i)
  | .real s => some (.real s)
  | .text s => some (.text s)
  | _ => none

/-- The members that keys and values in turn make up, after those that are known. What cannot be
told is passed over in the place of a key, and no key comes twice. -/
def members? (known : List (Key × Node)) : List Node → Option (List (Key × Node))
  | .unknown :: rest => members? known rest
  | k :: v :: rest =>
    k.key?.bind fun key =>
      if (known.lookup key).isSome then none else members? (known ++ [(key, v)]) rest
  | _ => some known

/-! ### Values of settings -/

end Node

/-- The name of a member with a key. -/
def Key.name : Key → String
  | .bool b => if b then "true" else "false"
  | .int i => toString i
  | .real s => s
  | .text s => s

namespace Node

mutual
/-- The value that a node stands for in settings, where no float but a finite one is had. -/
def value? : Node → Option Json
  | .null => some .null
  | .unknown => some .null
  | .bool b => some (.bool b)
  | .int i => some (.int i)
  | .real s => (Binary64.ofLiteral? s.toList).map .float
  | .text s => some (.str s)
  | .list items => (values? items).map .arr
  | .mapping ms => (memberValues? ms).map .obj

/-- The values of items. -/
def values? : List Node → Option (List Json)
  | [] => some []
  | n :: rest => (value? n).bind fun v => (values? rest).map (v :: ·)

/-- The values of members, of which the last one of a name counts. -/
def memberValues? : List (Key × Node) → Option Json.Members
  | [] => some []
  | (k, n) :: rest =>
    (value? n).bind fun v => (memberValues? rest).map fun ms =>
      if (Json.Members.get? k.name ms).isSome then ms else Json.Members.insert k.name v ms
end

end Node

end ProfileBrowser.Yaml
