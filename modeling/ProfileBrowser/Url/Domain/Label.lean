import ProfileBrowser.Url.Domain.Letter
import ProfileBrowser.Url.Domain.Spelling
/-!
# Labels of domains

The parts of a domain between its full stops, and what makes them sound: characters that may stand
in a domain, no mark at the start, marks of joining only where letters join, and, in a domain with
letters that are written from the right to the left, labels that can be read in one direction only.
-/

namespace ProfileBrowser.Url.Domain

/-! ### Joining -/

/-- Whether a letter joins on one side of a place in a label, given the characters from there on. -/
def sideJoins (joins : Char → Bool) (side : List Char) : Bool :=
  (side.dropWhile isTransparent).head?.any joins

/-- Whether the marks of joining in the rest of a label stand where letters join, given the
characters before it, the last of them first: after a virama, and a mark that keeps letters apart
also between two that would join. -/
def joinersFit (before : List Char) : List Char → Bool
  | [] => true
  | c :: rest =>
    let fits :=
      if c = joiner || c = nonJoiner then
        before.head?.any isVirama ||
          (c = nonJoiner && sideJoins joinsAfter before && sideJoins joinsBefore rest)
      else true
    fits && joinersFit (c :: before) rest

/-! ### Directions -/

/-- Whether a label has a character that is written from the right to the left. -/
def hasRightToLeft (label : List Char) : Bool :=
  label.any fun c => direction c = .rightToLeft || direction c = .arabicDigit

/-- Whether a label reads the same way among labels of both directions: it starts with a letter, all
its letters have the direction of the first, and it ends with one of them or with a digit, marks
apart. In a label that is written from the right to the left, digits are of one kind. -/
def readsOneWay (label : List Char) : Bool :=
  match label.map direction with
  | [] => true
  | first :: others =>
    let inner := (others.reverse.dropWhile (· = .mark)).reverse
    let endsIn (ends : List Direction) : Bool := inner.getLast?.all ends.contains
    match first with
    | .leftToRight =>
      !inner.contains .rightToLeft && !inner.contains .arabicDigit &&
        endsIn [.leftToRight, .europeanDigit]
    | .rightToLeft =>
      !inner.contains .leftToRight &&
        !(inner.contains .europeanDigit && inner.contains .arabicDigit) &&
        endsIn [.rightToLeft, .europeanDigit, .arabicDigit]
    | _ => false

/-! ### Sound labels -/

/-- How many characters a label has at most, if they are not all of ASCII. -/
def longestLabel : Nat := 1000

/-- Whether a label on its own is sound. -/
def isSoundLabel (label : List Char) : Bool :=
  label.all isAllowed && !label.head?.any isMark && joinersFit [] label &&
    (label.all (·.toNat < 0x80) || label.length ≤ longestLabel)

/-- Whether the labels of a domain are sound. -/
def areSound (labels : List (List Char)) : Bool :=
  labels.all isSoundLabel && (!labels.any hasRightToLeft || labels.all readsOneWay)

end ProfileBrowser.Url.Domain
