import ProfileBrowser.Text.Case
import ProfileBrowser.Text.Composed
import ProfileBrowser.Text.Quoted.Table
import ProfileBrowser.Url.Domain.Spelling.Table
/-!
# The spelling of domains

Domains that look alike are to be one domain, so every domain has one spelling: in small letters and
plain forms, without the characters that show nothing, and composed.
-/

namespace ProfileBrowser.Url.Domain

/-- What a run of spellings makes of a code, if it belongs to the run. -/
def spelledInRun (n : Nat) (run : Nat × Nat × Nat) : Option Nat :=
  let (first, last, target) := run
  if first ≤ n ∧ n ≤ last then some (target + (n - first)) else none

/-- The spelling of a code that belongs to a row of the table; only the last row that starts at or
before it can hold it. -/
def spelledInRow? (n : Nat) : Option (List Char) := do
  let (first, words) ← (spellings.takeWhile fun (first, _) => first ≤ n).getLast?
  (words.toList.splitOn ' ')[n - first]?

/-- Whether a code is that of a capital of Cherokee, whose small letters are spelled as capitals. -/
def isCherokeeCapital (n : Nat) : Bool := 0x13A0 ≤ n && n < 0x13F6

/-- The spelling of a character. -/
def spelling (c : Char) : List Char :=
  let n := c.toNat
  if n < 0x80 then [c.toLower]
  else if leftOut.hold n then []
  else
    match spellingRuns.findSome? (spelledInRun n) with
    | some target => [Char.ofNat target]
    | none =>
      match spelledInRow? n with
      | some word => word
      | none => if isCherokeeCapital n then [c] else Text.lowerChar c

/-- The spelling of a text. -/
def spelled (cs : List Char) : List Char := Text.composed (cs.flatMap spelling)

/-- The mark that joins the letters beside it. -/
def joiner : Char := Char.ofNat 0x200D

/-- The mark that keeps apart the letters beside it. -/
def nonJoiner : Char := Char.ofNat 0x200C

/-- Whether a character of a spelling may stand in a domain. It has a visible form, but for the two
marks that tell how letters join. In ASCII this tells nothing. -/
def isAllowed (c : Char) : Bool :=
  c.toNat < 0x80 || c = joiner || c = nonJoiner ||
    !(Text.nonPrinting.hold c.toNat || refused.hold c.toNat)

end ProfileBrowser.Url.Domain
