import ProfileBrowser.Text.Utf8
import ProfileBrowser.Url.Domain
import ProfileBrowser.Url.Percent
/-!
# Hosts

The host of a URL: a domain, or an address of version 4 or 6 of the internet protocol. Addresses are
read in all their spellings and written in one.
-/

namespace ProfileBrowser.Url

/-- A host. -/
inductive Host where
  | domain (name : String)
  /-- An address of 32 bits. -/
  | v4 (address : Nat)
  /-- An address of eight groups of 16 bits. -/
  | v6 (groups : List Nat)
deriving DecidableEq, Repr, Inhabited

namespace Host

/-! ### Version 4 -/

/-- A part of an address: decimal, octal after a zero, or hexadecimal after `0x`. -/
def v4Part? : List Char → Option Nat
  | ['0', 'x'] | ['0', 'X'] => some 0
  | '0' :: 'x' :: ds | '0' :: 'X' :: ds => Text.number? 16 ds
  | '0' :: d :: ds => Text.number? 8 (d :: ds)
  | ds => Text.number? 10 ds

/-- The parts of a domain; an empty one at the end does not count. -/
def parts (cs : List Char) : List (List Char) :=
  let ps := cs.splitOn '.'
  if ps.getLast? = some [] then ps.dropLast else ps

/-- Whether the last part of a domain is a number, so that the whole has to be an address. -/
def endsInNumber (cs : List Char) : Bool :=
  match (parts cs).getLast? with
  | none => false
  | some p => (!p.isEmpty && p.all Char.isDigit) || (v4Part? p).isSome

/-- How many numbers a number of octets can write, `256^n`. -/
def octets (n : Nat) : Nat := Nat.pow 256 n

/-- An address: up to four parts, of which the last fills all bits that the others leave. -/
def v4? (cs : List Char) : Option Nat := do
  let ps := parts cs
  let numbers ← ps.mapM v4Part?
  let last ← numbers.getLast?
  let front := numbers.dropLast
  if 4 < ps.length ∨ front.any (255 < ·) ∨ octets (4 - front.length) ≤ last then none
  else some (front.zipIdx.foldl (fun sum (n, i) => sum + n * octets (3 - i)) last)

/-- The text of an address. -/
def v4Text (address : Nat) : String :=
  ".".intercalate ([3, 2, 1, 0].map fun i => toString (address / octets i % 256))

/-! ### Version 6 -/

/-- A group of up to four digits. -/
def group? (cs : List Char) : Option Nat := if cs.length ≤ 4 then Text.number? 16 cs else none

/-- An octet without needless zeros. -/
def octet? (cs : List Char) : Option Nat :=
  if cs.head? = some '0' ∧ cs.length ≠ 1 then none
  else (Text.number? 10 cs).filter (· ≤ 255)

/-- The two groups of an address of version 4 at the end. -/
def v4Groups? (cs : List Char) : Option (List Nat) := do
  match ← (cs.splitOn '.').mapM octet? with
  | [a, b, c, d] => some [a * 256 + b, c * 256 + d]
  | _ => none

/-- Groups with colons between them; at the end of an address the last two may be one of version 4.
-/
def groups? (atEnd : Bool) (cs : List Char) : Option (List Nat) :=
  if cs.isEmpty then some []
  else do
    let ps := cs.splitOn ':'
    let last ← ps.getLast?
    let tail ←
      if atEnd && last.contains '.' then v4Groups? last else (group? last).map fun n => [n]
    return (← ps.dropLast.mapM group?) ++ tail

/-- Splits a text at the first two colons in a row. -/
def splitGap? : List Char → Option (List Char × List Char)
  | ':' :: ':' :: rest => some ([], rest)
  | c :: rest => (splitGap? rest).map fun (front, rest) => (c :: front, rest)
  | [] => none

/-- An address: eight groups, or fewer with a gap of zeros. -/
def v6? (cs : List Char) : Option (List Nat) :=
  match splitGap? cs with
  | none => (groups? true cs).filter (·.length = 8)
  | some (front, back) => do
    let front ← groups? false front
    let back ← groups? true back
    if front.length + back.length ≤ 7 then
      some (front ++ List.replicate (8 - front.length - back.length) 0 ++ back)
    else none

/-- The place and the length of the first longest run of zeros. -/
def longestZeros (groups : List Nat) : Nat × Nat :=
  let lengthAt (i : Nat) : Nat := ((groups.drop i).takeWhile (· = 0)).length
  (List.range groups.length).foldl
    (fun best i => if best.2 < lengthAt i then (i, lengthAt i) else best) (0, 0)

/-- The text of an address: small digits, and a gap for the first longest run of at least two zeros.
-/
def v6Text (groups : List Nat) : String :=
  let text (gs : List Nat) : String :=
    ":".intercalate (gs.map fun n => String.ofList (Nat.toDigits 16 n))
  let (i, n) := longestZeros groups
  if n < 2 then text groups else text (groups.take i) ++ "::" ++ text (groups.drop (i + n))

/-! ### Domains -/

/-- Characters that stand in no host. -/
def hostMarks : List Char :=
  [Char.ofNat 0, ' ', '#', '/', ':', '<', '>', '?', '@', '[', '\\', ']', '^', '|']

/-- Whether a character stands in no domain. -/
def isForbidden (c : Char) : Bool := isAlwaysEncoded c || c = '%' || hostMarks.contains c

/-! ### Reading and writing -/

/-- The host of a URL of a special scheme. -/
def read? (cs : List Char) : Option Host :=
  match cs with
  | '[' :: rest =>
    if rest.getLast? = some ']' then (v6? rest.dropLast).map .v6 else none
  | _ =>
    match (Text.readUtf8 (decode cs)).toOption.bind Domain.ascii? with
    | none => none
    | some name =>
      if name.isEmpty || name.any isForbidden then none
      else if endsInNumber name then (v4? name).map .v4
      else some (.domain (String.ofList name))

/-- The host of a URL of any other scheme. -/
def readOpaque? (cs : List Char) : Option Host :=
  match cs with
  | '[' :: rest =>
    if rest.getLast? = some ']' then (v6? rest.dropLast).map .v6 else none
  | _ =>
    if cs.any hostMarks.contains then none else some (.domain (String.ofList (encode [] cs)))

/-- The text of a host. -/
def text : Host → String
  | .domain name => name
  | .v4 address => v4Text address
  | .v6 groups => "[" ++ v6Text groups ++ "]"

end Host

end ProfileBrowser.Url
