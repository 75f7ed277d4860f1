import ProfileBrowser.Text.Digits
import ProfileBrowser.Yaml.Cursor
/-!
# Tags

A tag tells what a node is. It is an address in angle brackets, or a handle and what comes after it;
directives say what a handle stands for.
-/

namespace ProfileBrowser.Yaml

/-- A tag as it is written: `!suffix`, `!handle!suffix`, or an address without a handle. -/
structure Tag where
  handle : String
  suffix : String
deriving DecidableEq, Repr, Inhabited

namespace Cursor

/-- How many octets a character takes that begins with an octet. -/
def width? (octet : Nat) : Option Nat :=
  if octet < 0x80 then some 1
  else if 0xC0 ≤ octet && octet < 0xE0 then some 2
  else if 0xE0 ≤ octet && octet < 0xF0 then some 3
  else if 0xF0 ≤ octet && octet < 0xF8 then some 4
  else none

/-- An octet in hexadecimal after a percent sign. -/
def percented? (cs : List Char) : Option Nat :=
  match cs with
  | '%' :: a :: b :: _ => Text.number? 16 [a, b]
  | _ => none

/-- The octets that go on with a code, which has a number of them left. The octets of a code are
read as one number in base 256. -/
def percentedRest? : Nat → Nat → List Char → Option Nat
  | 0, code, _ => some code
  | n + 1, code, cs =>
    (percented? cs).bind fun octet =>
      if 0x80 ≤ octet && octet < 0xC0 then percentedRest? n (code * 256 + octet) (cs.drop 3)
      else none

/-- A character that is written with percent signs, and how many characters it takes. -/
def percentedChar? (cs : List Char) : Option (Char × Nat) := do
  let octet ← percented? cs
  let width ← width? octet
  let code ← percentedRest? (width - 1) octet (cs.drop 3)
  if decide code.isValidChar then some (Char.ofNat code, 3 * width) else none

/-- The characters of a class, at most `fuel`, and what follows. -/
def address? (p : Char → Bool) : Nat → Cursor → Option (List Char × Cursor)
  | 0, c => some ([], c)
  | fuel + 1, c =>
    match c.rest with
    | [] => some ([], c)
    | d :: _ =>
      if !p d then some ([], c)
      else do
        let (d, n) ← if d = '%' then percentedChar? c.rest else some (d, 1)
        let (cs, next) ← address? p fuel (c.skip n)
        return (d :: cs, next)

/-- A handle: an exclamation mark, and a word with another one. Without the other one the word is no
part of a handle in a directive. -/
def handle? (directive : Bool) (c : Cursor) : Option (List Char × Cursor) :=
  if c.rest.head? ≠ some '!' then none
  else
    let name := (c.rest.drop 1).takeWhile isWord
    let next := c.skip (name.length + 1)
    if next.rest.head? = some '!' then some ('!' :: name ++ ['!'], next.skip 1)
    else if directive && !name.isEmpty then none
    else some ('!' :: name, next)

/-- What a directive lets a handle stand for. -/
def handleMeaning? (c : Cursor) : Option (List Char × Cursor) :=
  match c.rest with
  | '!' :: _ => (address? isAddress c.rest.length (c.skip 1)).map fun (cs, c) => ('!' :: cs, c)
  | d :: _ => if isTagChar d then address? isAddress c.rest.length c else none
  | [] => none

/-- A tag without what has to follow it. -/
def bareTag? (c : Cursor) : Option (Tag × Cursor) :=
  if (c.rest.drop 1).head? = some '<' then
    (address? isAddress c.rest.length (c.skip 2)).bind fun (cs, next) =>
      if next.rest.head? = some '>' then some (⟨"", String.ofList cs⟩, next.skip 1) else none
  else
    (handle? false c).bind fun (handle, next) =>
      (address? isTagChar c.rest.length next).bind fun (cs, next) =>
        if 2 ≤ handle.length && handle.getLast? = some '!' then
          if cs.isEmpty then none else some (⟨String.ofList handle, String.ofList cs⟩, next)
        else
          let suffix := handle.drop 1 ++ cs
          some (if suffix.isEmpty then ⟨"", "!"⟩ else ⟨"!", String.ofList suffix⟩, next)

/-- A tag, which a space or, inside a flow collection, a mark of those follows. -/
def tag? (flow : Bool) (c : Cursor) : Option (Tag × Cursor) :=
  (bareTag? c).filter fun (_, next) =>
    startsWith (fun d => isSpace d || (flow && isFlowMark d)) next.rest

end Cursor

end ProfileBrowser.Yaml
