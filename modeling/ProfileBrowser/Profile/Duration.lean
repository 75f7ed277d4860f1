import ProfileBrowser.Binary64.Literal
import ProfileBrowser.Text.Blank
import ProfileBrowser.Word
/-!
# Durations

Lengths of time as whole nanoseconds: the reading of look-back windows such as `15m` or `1.5h`, and
the compact label of a window.
-/

namespace ProfileBrowser

/-- A length of time. -/
structure Duration where
  nanos : Nat
deriving DecidableEq, Repr, Inhabited

namespace Duration

/-- The nanoseconds of a second. -/
def perSecond : Nat := 1000000000

/-- The nanoseconds of a millisecond. -/
def perMilli : Nat := 1000000

/-- The nanoseconds of a microsecond. -/
def perMicro : Nat := 1000

/-- Whole seconds. -/
def ofSeconds (s : Nat) : Duration := ⟨s * perSecond⟩

/-- The whole seconds of a duration. -/
def seconds (d : Duration) : Nat := d.nanos / perSecond

/-! ### Reading -/

/-- The units with their nanoseconds. A unit that another one ends in comes after it. -/
def units : List (String × Nat) :=
  [("ns", 1), ("µs", perMicro), ("us", perMicro), ("ms", perMilli), ("s", perSecond),
    ("m", 60 * perSecond), ("h", 3600 * perSecond), ("d", 86400 * perSecond)]

/-- Why a text is no duration. -/
inductive ReadError where
  | unknownFormat (s : String)
  | negative (s : String)
  | emptyNumber
  | badNumber
deriving DecidableEq, Repr, Inhabited

/-- The message of an error. -/
def ReadError.message : ReadError → String
  | .unknownFormat s => "Unknown duration format: " ++ s
  | .negative s => "Negative duration: " ++ s
  | .emptyNumber => "cannot parse float from empty string"
  | .badNumber => "invalid float literal"

/-- What is left of a text in front of an ending. -/
def withoutEnding? (ending cs : List Char) : Option (List Char) :=
  if ending.isSuffixOf cs then some (cs.take (cs.length - ending.length)) else none

/-- The first unit that a text ends in, and what is in front of it. -/
def splitUnit? (cs : List Char) : Option (List Char × Nat) :=
  units.findSome? fun (u, n) => (withoutEnding? u.toList cs).map fun front => (front, n)

/-- Reads a number and a unit. The product is a binary64 product, cut to a whole number of
nanoseconds and held at the greatest word. -/
def read (s : String) : Except ReadError Duration :=
  let cs := Text.trimChars s.toList
  match splitUnit? cs with
  | none => .error (.unknownFormat (String.ofList cs))
  | some (front, unit) =>
    let number := Text.trimChars front
    if number.isEmpty then .error .emptyNumber
    else
      match Binary64.ofLiteral? number with
      | none => .error .badNumber
      | some x =>
        if Binary64.lt x (Binary64.zero false) then .error (.negative (String.ofList cs))
        else .ok ⟨Binary64.truncateTo Word.greatest (x * Binary64.ofNat unit)⟩

/-! ### Labels -/

/-- A compact label: seconds below a minute, minutes and hours below a day, days and hours from
there on; a part that is zero is left out. -/
def label (d : Duration) : String :=
  let secs := d.seconds
  let days := secs / 86400
  let hours := secs % 86400 / 3600
  let minutes := secs % 3600 / 60
  if days = 0 then
    if hours = 0 then
      if minutes = 0 then toString secs ++ "s" else toString minutes ++ "m"
    else if minutes = 0 then toString hours ++ "h"
    else toString hours ++ "h " ++ toString minutes ++ "m"
  else if hours = 0 then toString days ++ "d"
  else toString days ++ "d " ++ toString hours ++ "h"

end Duration

end ProfileBrowser
