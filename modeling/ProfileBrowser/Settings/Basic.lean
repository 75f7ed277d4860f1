import ProfileBrowser.Binary64.Decimal
import ProfileBrowser.Profile.Duration
import ProfileBrowser.Query.Http
import ProfileBrowser.Settings.Tree
import ProfileBrowser.Text.Digits
import ProfileBrowser.View.Mode
import ProfileBrowser.Word
/-!
# Settings

What can be set, and how it is read from a tree of settings. A scalar is taken where it can be
turned into what is wanted: numbers and booleans into texts, texts and booleans into counts. Keys
that mean nothing are passed over.
-/

namespace ProfileBrowser

/-- The settings of the program. -/
structure Settings where
  endpoint : String := ProfilingApi.defaultEndpoint
  token : Option String := none
  /-- How long a request may take, in seconds. -/
  timeout : Nat := 30
  /-- Headers that go with every request, with ascending names. -/
  headers : List (String × String) := []
  params : Params := .empty
  /-- How far the window reaches back. -/
  last : String := "1h"
  /-- How long changes are waited for before they are fetched, in milliseconds. -/
  quiet : Nat := 16
  mode : Mode := .combine
  /-- Where files are saved. -/
  exportDirectory : String := "."
  logFile : Option String := none
  logLevel : String := "info"
deriving Inhabited

namespace Settings

/-- The length of the window that ends now. -/
def lookback (s : Settings) : Except Duration.ReadError Duration := Duration.read s.last

/-! ### Values -/

/-- A text. -/
def text? : Json → Option String
  | .str s => some s
  | .int i => some (toString i)
  | .float x => some x.plain
  | .bool b => some (if b then "true" else "false")
  | _ => none

/-- A text that may be left out. -/
def optionalText? : Json → Option (Option String)
  | .null => some none
  | v => (text? v).map some

/-- The count in a text: one of the words for yes and no, or digits. -/
def countOfText? (s : String) : Option Nat :=
  let small := String.ofList (Text.lower s.toList)
  if ["true", "on", "yes"].contains small then some 1
  else if ["false", "off", "no"].contains small then some 0
  else
    let digits := match s.toList with
      | '+' :: digits => digits
      | digits => digits
    (Text.number? 10 digits).filter (· ≤ Word.greatest)

/-- A count. A fraction is rounded, and what is too great or too small is held at the end. -/
def count? : Json → Option Nat
  | .int i => if 0 ≤ i then some i.toNat else none
  | .float x => some (x.roundTo Word.greatest)
  | .bool b => some (if b then 1 else 0)
  | .str s => countOfText? s
  | _ => none

/-- A mode: its name, or a table with its name for the only key. -/
def mode? : Json → Option Mode
  | .str s => Mode.named? s
  | .obj [(name, _)] => Mode.named? name
  | _ => none

/-- A table of texts. -/
def headers? : Json → Option (List (String × String))
  | .obj ms => ms.mapM fun (name, v) => (text? v).map (name, ·)
  | _ => none

mutual
/-- A value as it is sent: a number that is not finite is null. -/
def sendable : Json → Json
  | .float x =>
    match x with
    | .finite s m q => .float (.finite s m q)
    | _ => .null
  | .arr items => .arr (sendableItems items)
  | .obj ms => .obj (sendableMembers ms)
  | v => v

/-- `sendable` on the items of an array. -/
def sendableItems : List Json → List Json
  | [] => []
  | v :: rest => sendable v :: sendableItems rest

/-- `sendable` on the members of a table. -/
def sendableMembers : List (String × Json) → List (String × Json)
  | [] => []
  | (key, v) :: rest => (key, sendable v) :: sendableMembers rest
end

/-- A table of parameters. -/
def params? : Json → Option Params
  | .obj ms => some (.ofMembers (sendableMembers ms))
  | _ => none

/-! ### Trees -/

/-- Takes in a member of a tree. -/
def takeMember (s : Settings) (member : String × Json) : Option Settings :=
  let (key, v) := member
  match key with
  | "endpoint" => (text? v).map ({ s with endpoint := · })
  | "token" => (optionalText? v).map ({ s with token := · })
  | "timeout_secs" => (count? v).map ({ s with timeout := · })
  | "headers" => (headers? v).map ({ s with headers := · })
  | "params" => (params? v).map ({ s with params := · })
  | "last" => (text? v).map ({ s with last := · })
  | "debounce_ms" => (count? v).map ({ s with quiet := · })
  | "mode" => (mode? v).map ({ s with mode := · })
  | "export_dir" => (text? v).map ({ s with exportDirectory := · })
  | "log_file" => (optionalText? v).map ({ s with logFile := · })
  | "log_level" => (text? v).map ({ s with logLevel := · })
  | _ => some s

/-- The settings in a tree, if every value fits. -/
def ofTree? (tree : Json) : Option Settings := (membersOf tree).foldlM takeMember {}

end Settings

end ProfileBrowser
