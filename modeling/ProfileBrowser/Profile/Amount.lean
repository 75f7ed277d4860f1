import ProfileBrowser.Binary64.Decimal
import ProfileBrowser.Word
/-!
# Amounts

How the amounts of a profile are shown: times, bytes and plain counts with a scale that suits their
size, and shares in percent. All quotients are binary64 quotients, and a number of places is rounded
from their exact value.
-/

namespace ProfileBrowser.Amount

open Binary64

/-- The whole part of a quotient. -/
def wholePart (x : Binary64) : Nat := truncateTo Word.greatest x

/-- A time given in nanoseconds. -/
def time (nanos : Nat) : String :=
  let secs := ofNat nanos / ofNat 1000000000
  let hours := wholePart (secs / ofNat 3600)
  if 1 ≤ hours then
    toString hours ++ "h" ++ toString (wholePart (rem secs (ofNat 3600) / ofNat 60)) ++ "m"
  else
    let minutes := wholePart (secs / ofNat 60)
    if 1 ≤ minutes then toString minutes ++ "m" ++ fixed 2 (rem secs (ofNat 60)) ++ "s"
    else
      let millis := secs * ofNat 1000
      if le (ofNat 1000) millis then fixed 2 secs ++ "s"
      else if le (ofNat 1) millis then fixed 0 millis ++ "ms"
      else fixed 0 (millis * ofNat 1000) ++ "µs"

/-- A number of bytes. -/
def bytes (n : Nat) : String :=
  let x := ofNat n
  let scaled (k : Nat) (suffix : String) : String := fixed 1 (x / ofNat k) ++ suffix
  if le (ofNat (1024 * 1024 * 1024)) x then scaled (1024 * 1024 * 1024) "GB"
  else if le (ofNat (1024 * 1024)) x then scaled (1024 * 1024) "MB"
  else if le (ofNat 1024) x then scaled 1024 "KB"
  else toString n ++ "B"

/-- A plain count. -/
def count (n : Nat) : String :=
  if 1000000 ≤ n then fixed 1 (ofNat n / ofNat 1000000) ++ "M"
  else if 1000 ≤ n then fixed 1 (ofNat n / ofNat 1000) ++ "K"
  else toString n

/-- An amount in the unit of a profile. -/
def shown (n : Nat) (unit : String) : String :=
  if unit = "nanoseconds" ∨ unit = "ns" then time n
  else if unit = "bytes" then bytes n
  else count n

/-- The share of a part in a whole. -/
def share (part whole : Nat) : String :=
  if whole = 0 then "0.00%" else fixed 2 (ofNat part * ofNat 100 / ofNat whole) ++ "%"

end ProfileBrowser.Amount
