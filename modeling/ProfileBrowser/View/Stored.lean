import ProfileBrowser.Json.Record
import ProfileBrowser.View.Controller
import ProfileBrowser.Word
/-!
# Stored contexts and modes

The texts in which a context and a mode are kept: a context is a record of the parameters and the
window, an instant of the window a record of seconds and nanoseconds, and a mode its name.
-/

namespace ProfileBrowser

open Json

/-! ### Windows -/

/-- The greatest number of seconds that an instant may lie behind the epoch. -/
def TimeRange.maxSeconds : Nat := Word.signedCount - 1

/-- An instant. -/
def TimeRange.scanInstant : Scan Int := fun c =>
  let shape : PairShape Nat Nat :=
    { expected := "struct SystemTime", expectedItems := "struct SystemTime",
      firstName := "secs_since_epoch", firstScan := Cursor.whole 64,
      secondName := "nanos_since_epoch", secondScan := Cursor.whole 32, closed := true }
  let duration := shape.scan fun (secs, nanos) =>
    if secs + nanos / Duration.perSecond < Word.count then
      .ok (secs * Duration.perSecond + nanos)
    else .error "overflow deserializing SystemTime epoch offset"
  match duration c with
  | (.error e, c) => (.error e, c)
  | (.ok nanos, c) =>
    if nanos / Duration.perSecond ≤ TimeRange.maxSeconds then (.ok nanos, c)
    else (.error (.loose "overflow deserializing SystemTime"), c)

/-- A window. Its instants stay in the order in which they are given. -/
def TimeRange.scan : Scan TimeRange :=
  PairShape.scan
    { expected := "struct TimeRange", expectedItems := "struct TimeRange with 2 elements",
      firstName := "start", firstScan := TimeRange.scanInstant,
      secondName := "end", secondScan := TimeRange.scanInstant, closed := false }
    fun (start, stop) => .ok ⟨start, stop⟩

/-! ### Contexts -/

/-- How deep the values of a document may be nested. -/
def nestingLimit : Nat := 128

/-- Parameters inside `depth` arrays and objects. -/
def Params.scan (depth : Nat) : Scan Params := fun c =>
  let c := c.skip
  match c.peek? with
  | none => c.faultAhead .endInValue
  | some b =>
    if b = 123 then
      match Cursor.value (some nestingLimit) depth c with
      | (.ok (.obj ms), c) => (.ok ⟨ms⟩, c)
      | (.ok _, c) => (.ok .empty, c)
      | (.error e, c) => (.error e, c)
    else Cursor.mismatch "a map" c

namespace Context

/-- A context. -/
def scan : Scan Context :=
  PairShape.scan
    { expected := "struct QueryContext", expectedItems := "struct QueryContext with 2 elements",
      firstName := "params", firstScan := Params.scan 1,
      secondName := "time_range", secondScan := TimeRange.scan, closed := false }
    fun (params, range) => .ok ⟨params, range⟩

/-- Reads a stored context. -/
def read (s : String) : Except String Context := scanDocument scan (Text.utf8 s.toList)

/-- The form in which a context is stored, if its window has one. -/
def toJson? (c : Context) : Option Json := do
  let range ← c.range.toJson?
  return .obj [("params", c.params.toJson), ("time_range", range)]

end Context

/-! ### Modes -/

namespace Mode

/-- The name of a mode as a string. -/
def scanName : Scan Mode := fun c =>
  let c := c.skip
  match c.peek? with
  | none => c.faultAhead .endInValue
  | some b =>
    if b ≠ 34 then Cursor.mismatch "variant identifier" c
    else
      match Cursor.value none 0 c with
      | (.ok (.str s), c) =>
        match named? s with
        | some m => (.ok m, c)
        | none =>
          let names := ", ".intercalate (all.map fun m => "`" ++ m.name ++ "`")
          (.error (.placed ("unknown variant `" ++ s ++ "`, expected one of " ++ names) c.place), c)
      | (.ok _, c) => c.faultAhead .expectedValue
      | (.error e, c) => (.error e, c)

/-- A null. -/
def scanNull : Scan Unit := fun c =>
  let c := c.skip
  match c.peek? with
  | none => c.faultAhead .endInValue
  | some b =>
    if b ≠ 110 then Cursor.mismatch "unit" c
    else
      match Cursor.value none 0 c with
      | (.ok _, c) => (.ok (), c)
      | (.error e, c) => (.error e, c)

/-- A mode: its name, or an object with its name as the only key and null as the value. -/
def scan : Scan Mode := fun c =>
  let c := c.skip
  match c.peek? with
  | none => c.faultAhead .endInValue
  | some b =>
    if b = 34 then scanName c
    else if b ≠ 123 then c.faultAhead .expectedValue
    else
      match scanName c.next with
      | (.error e, c) => (.error e, c)
      | (.ok m, c) =>
        match Cursor.colon c with
        | (.error e, c) => (.error e, c)
        | (.ok (), c) =>
          match scanNull c with
          | (.error e, c) => (.error e, c)
          | (.ok (), c) =>
            let c := c.skip
            match c.peek? with
            | none => (.error (.placed Fault.endInObject.words c.place), c)
            | some b =>
              if b = 125 then (.ok m, c.next)
              else (.error (.placed Fault.expectedValue.words c.place), c)

/-- Reads a stored mode. -/
def readStored (s : String) : Except String Mode := scanDocument scan (Text.utf8 s.toList)

end Mode

end ProfileBrowser
