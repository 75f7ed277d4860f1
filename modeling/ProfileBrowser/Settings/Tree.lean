import ProfileBrowser.Json.Basic
import ProfileBrowser.Word
/-!
# Trees of settings

Settings from several sources in one tree, the later source over the earlier. A key may be a path
(`params.app_name`, `tags[0]`); a key that is no path stands for itself. Tables are merged member by
member, and anything else is replaced.
-/

namespace ProfileBrowser.Settings

/-! ### Paths -/

/-- A step into a tree. -/
inductive Step where
  | key (name : String)
  /-- A place in an array; a negative one counts from its end. -/
  | index (i : Int)
deriving DecidableEq, Repr, Inhabited

/-- Whether a character may stand in a key of a path. -/
def isKeyChar (c : Char) : Bool := c.isAlphanum || c = '_' || c = '-'

/-- The index between two brackets: digits after an optional minus, with blanks around them. -/
def readIndex? (cs : List Char) : Option Int :=
  let isBlank (c : Char) : Bool := c = ' ' || c = '\t'
  let cs := ((cs.dropWhile isBlank).reverse.dropWhile isBlank).reverse
  let (negative, digits) := match cs with
    | '-' :: ds => (true, ds)
    | ds => (false, ds)
  if digits.isEmpty || !digits.all Char.isDigit then none
  else
    let n : Int := (digits.foldl (fun n c => n * 10 + (c.toNat - 48)) 0 : Nat)
    let i := if negative then -n else n
    if Word.isSigned i then some i else none

/-- The steps after the first key of a path, over at most `fuel` of them. -/
def readSteps? : Nat → List Char → Option (List Step)
  | _, [] => some []
  | 0, _ => none
  | fuel + 1, '.' :: rest =>
    let name := rest.takeWhile isKeyChar
    if name.isEmpty then none
    else (readSteps? fuel (rest.dropWhile isKeyChar)).map (.key (String.ofList name) :: ·)
  | fuel + 1, '[' :: rest => do
    let i ← readIndex? (rest.takeWhile (· ≠ ']'))
    match rest.dropWhile (· ≠ ']') with
    | _ :: rest => (readSteps? fuel rest).map (.index i :: ·)
    | [] => none
  | _, _ => none

/-- The path of a key. -/
def readPath (key : String) : List Step :=
  let cs := key.toList
  let root := cs.takeWhile isKeyChar
  if root.isEmpty then [.key key]
  else
    match readSteps? cs.length (cs.dropWhile isKeyChar) with
    | some steps => .key (String.ofList root) :: steps
    | none => [.key key]

/-! ### Writing into a tree -/

/-- The members of a table; anything else has none. -/
def membersOf : Json → Json.Members
  | .obj ms => ms
  | _ => []

/-- The items of an array; anything else has none. -/
def itemsOf : Json → List Json
  | .arr items => items
  | _ => []

mutual
/-- A value over another: a table is merged into it, member by member. -/
def overlay (old : Option Json) : Json → Json
  | .obj ms => overlayMembers (old.getD (.obj [])) ms
  | v => v

/-- Members over those of a table. No members leave it as it is, whatever it is. -/
def overlayMembers (old : Json) : List (String × Json) → Json
  | [] => old
  | (key, v) :: rest =>
    let ms := membersOf old
    overlayMembers (.obj (Json.Members.insert key (overlay (Json.Members.get? key ms) v) ms)) rest
end

/-- An item of an array; what is missing up to it is null, also in front of the array. -/
def setItem (items : List Json) (i : Int) (change : Json → Json) : List Json :=
  let n : Int := items.length
  if 0 ≤ i then
    (items ++ List.replicate (i + 1 - n).toNat Json.null).modify i.toNat change
  else
    (List.replicate (-i - n).toNat Json.null ++ items).modify (n + i).toNat change

/-- Writes a value at a path. What is on the way and is no table or array becomes one. -/
def write (value : Json) : List Step → Json → Json
  | [], _ => value
  | [.key name], tree =>
    let ms := membersOf tree
    .obj (Json.Members.insert name (overlay (Json.Members.get? name ms) value) ms)
  | .key name :: rest, tree =>
    let ms := membersOf tree
    .obj (Json.Members.insert name (write value rest ((Json.Members.get? name ms).getD .null)) ms)
  | .index i :: rest, tree => .arr (setItem (itemsOf tree) i (write value rest))

/-- Writes the members of a source into a tree. -/
def addSource (tree : Json) (source : List (String × Json)) : Json :=
  source.foldl (fun tree (key, v) => write v (readPath key) tree) tree

end ProfileBrowser.Settings
