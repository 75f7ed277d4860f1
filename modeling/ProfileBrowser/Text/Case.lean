import ProfileBrowser.Text.Case.Table
/-!
# Lower case

The full lower-case form of a text. Every character is mapped on its own but two: the dotted capital
I gives two characters, and a capital sigma at the end of a word gives the final sigma, so the form
of a piece of a text need not be a piece of the form of the text.
-/

namespace ProfileBrowser.Text

/-- What a run of mappings makes of a code point, if it belongs to the run. -/
def lowerInRun (n : Nat) (run : Nat × Nat × Nat × Nat) : Option Nat :=
  let (first, last, step, target) := run
  if first ≤ n ∧ n ≤ last ∧ (n - first) % step = 0 then some (target + (n - first)) else none

/-- The lower-case form of one character, without regard to its neighbours. -/
def lowerChar (c : Char) : List Char :=
  if c.toNat < 0x80 then [c.toLower]
  else if c.toNat = 0x130 then ['i', Char.ofNat 0x307]
  else
    match lowerRuns.findSome? (lowerInRun c.toNat) with
    | some n => [Char.ofNat n]
    | none => [c]

/-- The capital sigma, the one letter whose lower case depends on its place. -/
def capitalSigma : Char := Char.ofNat 0x3A3

/-- Whether the first character that is not looked through is a cased one. -/
def startsCased (cs : List Char) : Bool :=
  match cs.dropWhile (caseIgnorable.hold ·.toNat) with
  | [] => false
  | c :: _ => cased.hold c.toNat

/-- The lower-case form of the rest of a text, given the characters before it, the nearest first. -/
def lowerAfter (before : List Char) : List Char → List Char
  | [] => []
  | c :: rest =>
    let form :=
      if c = capitalSigma then
        if startsCased before && !startsCased rest then [Char.ofNat 0x3C2] else [Char.ofNat 0x3C3]
      else lowerChar c
    form ++ lowerAfter (c :: before) rest

/-- The lower-case form of a text. -/
def lower (cs : List Char) : List Char := lowerAfter [] cs

/-- The form of a text in which ASCII capitals alone are made small. -/
def asciiLower (s : String) : String := String.ofList (s.toList.map Char.toLower)

end ProfileBrowser.Text
