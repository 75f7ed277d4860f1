import ProfileBrowser.Profile.Diagrams
import ProfileBrowser.Profile.TimeRange
/-!
# Requests

What is asked of the profiling backend: the filter parameters, a window of time, the wanted shapes
and, for a sorted table, the order. The body of a request holds the parameters with the request's
own members on top.
-/

namespace ProfileBrowser

/-! ### Parameters -/

/-- Filter fields that go into every request, with ascending keys. -/
structure Params where
  entries : Json.Members
deriving Inhabited

namespace Params

/-- No parameters. -/
def empty : Params := ⟨[]⟩

/-- Parameters from members in any order; of two with one key the later counts. -/
def ofMembers (ms : List (String × Json)) : Params := ⟨Json.Members.ofList ms⟩

/-- Sets a parameter. -/
def insert (p : Params) (key : String) (v : Json) : Params := ⟨Json.Members.insert key v p.entries⟩

/-- The value of a parameter. -/
def get? (p : Params) (key : String) : Option Json := Json.Members.get? key p.entries

/-- The value of a parameter that is a string. -/
def getString? (p : Params) (key : String) : Option String := (p.get? key).bind Json.asString?

/-- The application and the service that the parameters name, for the header of the screen. -/
def label (p : Params) : String :=
  match p.getString? "app_name", p.getString? "service_name" with
  | some app, some service => app ++ "/" ++ service
  | some app, none => app
  | none, some service => service
  | none, none => "-"

/-- The parameters as an object. -/
def toJson (p : Params) : Json := .obj p.entries

end Params

/-! ### Requests -/

/-- One request. -/
structure Request where
  params : Params
  /-- The start of the window in microseconds from the epoch. -/
  start : UInt64
  /-- The end of the window in microseconds from the epoch. -/
  stop : UInt64
  kinds : List DiagramKind
  /-- The order wanted for the rows, such as `-total`. -/
  sort : Option String := none
deriving Inhabited

namespace Request

/-- A request for a window, without an order. -/
def make (params : Params) (range : TimeRange) (kinds : List DiagramKind) : Request :=
  { params, start := TimeRange.micros range.start, stop := TimeRange.micros range.stop, kinds }

/-- Whether a shape is asked for. -/
def wants (r : Request) (kind : DiagramKind) : Bool := r.kinds.contains kind

/-- The body: the parameters, and the request's own members over those of the same key. -/
def body (r : Request) : Json :=
  let ms := Json.Members.insert "start" (.word r.start) r.params.entries
  let ms := Json.Members.insert "end" (.word r.stop) ms
  let ms := Json.Members.insert "diagram_types" (.arr (r.kinds.map fun k => .str k.name)) ms
  match r.sort with
  | none => .obj ms
  | some sort => .obj (Json.Members.insert "sort" (.str sort) ms)

end Request

end ProfileBrowser
