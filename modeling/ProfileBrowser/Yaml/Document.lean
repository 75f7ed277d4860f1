import ProfileBrowser.Yaml.Node
import ProfileBrowser.Yaml.Token.Lexer
/-!
# YAML documents

From the tokens of a text to the one document in it. Every reading takes tokens off the list that is
left and gives nothing for a faulty document.
-/

namespace ProfileBrowser.Yaml

/-- What is left to read, and what was seen of nodes with names. -/
structure Source where
  tokens : List Token
  /-- The anchors, the latest one first. A later one may have the name of an earlier one. -/
  anchors : List String := []
  /-- The nodes of anchors, by the number of anchors before them. -/
  nodes : List (Nat × Node) := []
  /-- What the directives let handles stand for. -/
  meanings : List (String × String) := []
deriving Inhabited

/-- Reads a part of a document. -/
abbrev Reading := StateT Source Option

namespace Reading

/-- The next token; it is left where it is. -/
def peek : Reading (Option Token) := do return (← get).tokens.head?

/-- Passes a token over. -/
def skip : Reading Unit := modify fun s => { s with tokens := s.tokens.drop 1 }

/-- Whether the next token is one of some. -/
def nextIs (ts : List Token) : Reading Bool := do return (← peek).any ts.contains

/-- Passes a token over, if it comes next. -/
def taken (t : Token) : Reading Bool := do
  if ← nextIs [t] then skip; return true else return false

/-! ### Properties -/

/-- Takes in an anchor: the number of anchors before it. -/
def addAnchor (name : String) : Reading Nat := do
  let n := (← get).anchors.length
  modify fun s => { s with anchors := name :: s.anchors }
  return n

/-- The node that a name refers to. A node is unknown inside of itself. -/
def referent (name : String) : Reading Node := do
  let s ← get
  let n := s.anchors.idxOf name
  if n = s.anchors.length then failure
  else return (s.nodes.lookup (s.anchors.length - 1 - n)).getD .unknown

/-- A tag with the meaning of its handle. -/
def meaning (tag : Tag) : Reading Tag := do
  let known := (← get).meanings.lookup tag.handle
  if tag.handle = "!!" then return { tag with handle := known.getD Node.standardHandle }
  else
    match known with
    | some handle => return { tag with handle }
    | none => if tag.handle.length < 2 then return tag else failure

/-- An anchor and a tag, in any order. -/
def properties : Reading (Option Nat × Option Tag) := do
  match ← peek with
  | some (.anchor name) =>
    skip
    let n ← addAnchor name
    match ← peek with
    | some (.tag t) => skip; return (some n, some (← meaning t))
    | _ => return (some n, none)
  | some (.tag t) =>
    skip
    let t ← meaning t
    match ← peek with
    | some (.anchor name) => skip; return (some (← addAnchor name), some t)
    | _ => return (none, some t)
  | _ => return (none, none)

/-! ### Nodes -/

/-- Where a node stands. -/
inductive Place where
  /-- In a flow collection. -/
  | flow
  /-- In a block. -/
  | block
  /-- In a member of a block mapping, where a list need not be indented. -/
  | member
deriving DecidableEq, Repr, Inhabited

/-- A mapping out of keys and values. -/
def mapping (ns : List Node) : Reading Node := do
  match Node.members? [] ns with
  | some ms => return .mapping ms
  | none => failure

mutual
/-- A node; in all readings, at most `fuel` steps are nested in each other. -/
def node : Nat → Place → Reading Node
  | 0, _ => failure
  | fuel + 1, place => do
    match ← peek with
    | some (.alias name) => skip; referent name
    | _ =>
      let (anchor, tag) ← properties
      let n ← content fuel place (anchor.isSome || tag.isSome) tag
      if let some i := anchor then
        modify fun s => { s with nodes := (i, n) :: s.nodes }
      return n

/-- A node after its properties. One that has some may be empty. -/
def content : Nat → Place → Bool → Option Tag → Reading Node
  | 0, _, _, _ => failure
  | fuel + 1, place, mayBeEmpty, tag => do
    match ← peek, place with
    | some .item, .member => return .list (← items fuel true)
    | some (.scalar plain s), _ => skip; return .ofScalar plain tag s
    | some .flowListStart, _ => skip; return .list (← flowItems fuel true)
    | some .flowMappingStart, _ => skip; mapping (← flowMembers fuel true)
    | some .blockListStart, .block => skip; return .list (← items fuel false)
    | some .blockListStart, .member => skip; return .list (← items fuel false)
    | some .blockMappingStart, .block => skip; mapping (← members fuel)
    | some .blockMappingStart, .member => skip; mapping (← members fuel)
    | _, _ => if mayBeEmpty then return .ofScalar true tag "" else failure

/-- A node, or null if one of some tokens comes next. -/
def nodeUnless : Nat → Place → List Token → Reading Node
  | 0, _, _ => failure
  | fuel + 1, place, ends => do
    if ← nextIs ends then return .null else node fuel place

/-- The items of a list in a block up to its end, which a list that is not indented does not mark.
-/
def items : Nat → Bool → Reading (List Node)
  | 0, _ => failure
  | fuel + 1, bare => do
    if ← taken .item then
      let ends := if bare then [.item, .key, .value, .blockEnd] else [.item, .blockEnd]
      let n ← nodeUnless fuel .block ends
      return n :: (← items fuel bare)
    else if bare || (← taken .blockEnd) then return []
    else failure

/-- The keys and values, in turn, of a mapping in a block up to its end. -/
def members : Nat → Reading (List Node)
  | 0 => failure
  | fuel + 1 => do
    let ends := [.key, .value, .blockEnd]
    if ← taken .blockEnd then return []
    else
      let k ←
        if ← taken .key then nodeUnless fuel .member ends
        else if ← nextIs [.value] then pure .null
        else failure
      let v ← if ← taken .value then nodeUnless fuel .member ends else pure .null
      return k :: v :: (← members fuel)

/-- The items of a list in brackets up to its end. A key among them is that of a mapping. -/
def flowItems : Nat → Bool → Reading (List Node)
  | 0, _ => failure
  | fuel + 1, first => do
    if ← taken .flowListEnd then return []
    else if first || (← taken .comma) then
      if ← taken .flowListEnd then return []
      else
        let n ← if ← taken .key then flowPair fuel else node fuel .flow
        return n :: (← flowItems fuel false)
    else failure

/-- A mapping without braces, of one member, after the mark of its key. What stands in the place of
a missing key is passed over. -/
def flowPair : Nat → Reading Node
  | 0 => failure
  | fuel + 1 => do
    let k ←
      if ← nextIs [.value, .comma, .flowListEnd] then skip; pure .null
      else node fuel .flow
    let v ←
      if ← taken .value then nodeUnless fuel .flow [.comma, .flowListEnd] else pure .null
    mapping [k, v]

/-- The keys and values, in turn, of a mapping in braces up to its end. -/
def flowMembers : Nat → Bool → Reading (List Node)
  | 0, _ => failure
  | fuel + 1, first => do
    if ← taken .flowMappingEnd then return []
    else if first || (← taken .comma) then
      if ← taken .flowMappingEnd then return []
      else
        let ends := [.comma, .flowMappingEnd]
        let (k, valued) ←
          if ← taken .key then pure (← nodeUnless fuel .flow (.value :: ends), true)
          else if ← nextIs [.value] then pure (.null, true)
          else pure (← node fuel .flow, false)
        let v ←
          if !valued then pure .null
          else if ← taken .value then nodeUnless fuel .flow ends
          else pure .null
        return k :: v :: (← flowMembers fuel false)
    else failure
end

/-! ### Documents -/

/-- Passes over the marks of ends. -/
def skipEnds : Reading Unit :=
  modify fun s => { s with tokens := s.tokens.dropWhile (· = .documentEnd) }

/-- Takes in the directives, of which the last one counts, over at most `fuel` of them. A version
comes but once. -/
def directives : Nat → Bool → Reading Unit
  | 0, _ => failure
  | fuel + 1, versioned => do
    match ← peek with
    | some .version =>
      if versioned then failure
      else
        modify fun s => { s with meanings := [] }
        skip
        directives fuel true
    | some (.meaning handle text) =>
      modify fun s => { s with meanings := [(handle, text)] }
      skip
      directives fuel versioned
    | _ => return

/-- The one document, if there is any. -/
def document : Reading (Option Node) := do
  skipEnds
  let fuel := 4 * (← get).tokens.length + 4
  match ← peek with
  | none => return none
  | some t =>
    let isMarked := match t with
      | .version | .meaning _ _ | .documentStart => true
      | _ => false
    let n ←
      if isMarked then
        directives fuel false
        if ← taken .documentStart then
          match ← peek with
          | none | some .documentStart | some .documentEnd | some .version
          | some (.meaning _ _) => pure .null
          | _ => node fuel .block
        else failure
      else node fuel .block
    skipEnds
    if (← peek).isSome then failure else return some n

end Reading

/-- Reads a document; nothing is said of a faulty one. A text without one is an empty mapping. -/
def read? (text : String) : Option Json := do
  let tokens ← tokens? text.toList
  let (n, _) ← Reading.document.run { tokens }
  (n.getD (.mapping [])).value?

end ProfileBrowser.Yaml
