import ProfileBrowser.Json.Basic
import ProfileBrowser.Profile.Duration
import ProfileBrowser.Word
/-!
# Time ranges

Windows of wall-clock time to query profiles for. An instant is a number of nanoseconds from the
epoch, negative before it; a request carries whole microseconds from the epoch, and 0 for what lies
before it.
-/

namespace ProfileBrowser

/-- A window of time. -/
structure TimeRange where
  start : Int
  stop : Int
deriving DecidableEq, Repr, Inhabited

namespace TimeRange

/-- The window between two instants, in whichever order they are given. -/
def between (a b : Int) : TimeRange := if b < a then ⟨b, a⟩ else ⟨a, b⟩

/-- The earliest instant that a clock of 64-bit seconds can show. -/
def earliest : Int := -(Word.signedCount * Duration.perSecond : Nat)

/-- The window of a length that ends now; one that no clock can show the start of starts at the
epoch. -/
def last (now : Int) (window : Duration) : TimeRange :=
  let start := now - window.nanos
  ⟨if start < earliest then 0 else start, now⟩

/-- The length of a window; a reversed one has none. -/
def duration (r : TimeRange) : Duration := ⟨(r.stop - r.start).toNat⟩

/-- The whole microseconds from the epoch to an instant, as a word. -/
def micros (t : Int) : UInt64 := UInt64.ofNat (t.toNat / 1000)

/-- An instant as seconds and nanoseconds; only instants from the epoch on have this form. -/
def instantJson? (t : Int) : Option Json :=
  if t < 0 then none
  else
    some (.obj [("secs_since_epoch", .int (t.toNat / Duration.perSecond : Nat)),
      ("nanos_since_epoch", .int (t.toNat % Duration.perSecond : Nat))])

/-- A window as a record, if both its instants have a form. -/
def toJson? (r : TimeRange) : Option Json := do
  let start ← instantJson? r.start
  let stop ← instantJson? r.stop
  return .obj [("start", start), ("end", stop)]

/-- What is said of an instant without a form. -/
def beforeEpochMessage : String := "SystemTime must be later than UNIX_EPOCH"

end TimeRange

end ProfileBrowser
