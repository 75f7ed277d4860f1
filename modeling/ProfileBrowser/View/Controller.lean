import ProfileBrowser.Profile.Filter
import ProfileBrowser.Query.Response
import ProfileBrowser.View.Debouncer
import ProfileBrowser.View.Label
import ProfileBrowser.View.Mode
/-!
# The controller

The controller owns what the renderers read and decides what is fetched and when. Changes of the
context are debounced into one fetch of table and flame graph; the call graph is fetched when its
mode is entered and kept until the context changes; a new order of the table fetches the rows alone.
Every fetch is written into a ledger when it is issued, and its completion is applied when the
controller is polled, in the order of arrival: nothing else changes the displayed data.

The backend is not part of the controller. `View.Exchange` puts one beside it.
-/

namespace ProfileBrowser

/-! ### Fetches -/

/-- What every request is built from. -/
structure Context where
  params : Params
  range : TimeRange
deriving Inhabited

/-- What a fetch is for. -/
inductive Purpose where
  /-- Table and flame graph. -/
  | diagrams
  /-- Rows in a new order. -/
  | sorting
  /-- The call graph of the context with the given number. -/
  | topology (generation : Nat)
deriving DecidableEq, Repr, Inhabited

/-- A request on its way, and what for. -/
structure Fetch where
  request : Request
  purpose : Purpose
deriving Inhabited

/-- How a fetch ended. -/
inductive Outcome where
  | data (d : Diagrams)
  /-- An answer without diagrams. -/
  | empty
  | failed (e : QueryError)
deriving Inhabited

/-- The outcome of a query. -/
def Outcome.ofResult : Except QueryError Response → Outcome
  | .ok ⟨some d⟩ => .data d
  | .ok ⟨none⟩ => .empty
  | .error e => .failed e

/-- Whether there is nothing to show. -/
def Outcome.showsEmpty : Outcome → Bool
  | .data _ => false
  | _ => true

/-- A fetch that has ended. -/
structure Completion where
  purpose : Purpose
  outcome : Outcome
deriving Inhabited

/-! ### State -/

/-- What the renderers read. -/
structure ViewState where
  mode : Mode := .combine
  isLoading : Bool := false
  empty : Bool := false
  unit : String := ""
  table : List TableRow := []
  flame : Option FlameNode := none
  topology : String := ""
  highlight : Option UInt64 := none
  filter : String := ""
  direction : Direction := .ltr
deriving Inhabited

/-- The state as a record. -/
def ViewState.toJson (s : ViewState) : Json :=
  .obj [("mode", .str s.mode.name), ("is_loading", .bool s.isLoading), ("empty", .bool s.empty),
    ("unit", .str s.unit), ("table_data", .arr (s.table.map TableRow.toJson)),
    ("flame_data", (s.flame.map FlameNode.toJson).getD .null), ("topo_src", .str s.topology),
    ("highlight_id", (s.highlight.map Json.word).getD .null), ("filter_keyword", .str s.filter),
    ("text_direction", .str s.direction.name)]

/-- What is debounced. -/
inductive Trigger where
  /-- Fetch table and flame graph again. -/
  | diagrams
deriving DecidableEq, Repr, Inhabited

/-- The controller. -/
structure Controller where
  context : Context
  view : ViewState
  debouncer : Debouncer Trigger
  /-- Every fetch so far, the last first. -/
  ledger : List Fetch
  /-- How many fetches have been issued and not been applied. -/
  inFlight : Nat
  /-- The number of the context: it grows with every change. -/
  generation : Nat
  /-- The context whose call graph is being fetched. -/
  topologyInFlight : Option Nat
  lastFailure : Option QueryError
deriving Inhabited

namespace Controller

/-! ### Asking -/

/-- Schedules a fetch of table and flame graph. -/
def refresh (c : Controller) (now : Nat) : Controller :=
  { c with debouncer := c.debouncer.schedule .diagrams now }

/-- A controller that has just scheduled its first fetch. -/
def new (context : Context) (quiet : Nat) (mode : Mode) (now : Nat) : Controller :=
  refresh
    { context, view := { mode }, debouncer := .new quiet, ledger := [], inFlight := 0,
      generation := 0, topologyInFlight := none, lastFailure := none } now

/-- How many fetches have been issued. -/
def requestsIssued (c : Controller) : Nat := c.ledger.length

/-- Whether a fetch of table and flame graph waits for its quiet period. -/
def refreshPending (c : Controller) : Bool := c.debouncer.isPending .diagrams

/-- The keywords that mark frames of the flame graph. -/
def filterKeywords (c : Controller) : List String := Filter.keywords c.view.filter

/-! ### Issuing -/

/-- Writes a fetch into the ledger. -/
def issue (c : Controller) (request : Request) (purpose : Purpose) : Controller :=
  { c with ledger := ⟨request, purpose⟩ :: c.ledger, inFlight := c.inFlight + 1 }

/-- A request in the current context. -/
def request (c : Controller) (kinds : List DiagramKind) : Request :=
  .make c.context.params c.context.range kinds

/-- Fetches the call graph unless it is there or on its way. -/
def requestTopology (c : Controller) : Controller :=
  if c.view.topology.isEmpty && c.topologyInFlight.isNone then
    { c with view := { c.view with isLoading := true }, topologyInFlight := some c.generation }
      |>.issue (c.request [.callgraph]) (.topology c.generation)
  else c

/-- Fetches table and flame graph, and in its mode the call graph. -/
def fetchDiagrams (c : Controller) : Controller :=
  let c := { c with view := { c.view with highlight := none, isLoading := true } }
    |>.issue (c.request [.table, .flamegraph]) .diagrams
  if c.view.mode = .topo then c.requestTopology else c

/-! ### What the user changes -/

/-- Forgets the call graph of the old context. -/
def invalidateTopology (c : Controller) : Controller :=
  { c with generation := c.generation + 1, topologyInFlight := none,
           view := { c.view with topology := "" } }

/-- Replaces the parameters. -/
def setParams (c : Controller) (params : Params) (now : Nat) : Controller :=
  { c with context := { c.context with params } }.invalidateTopology.refresh now

/-- Replaces the window. -/
def setRange (c : Controller) (range : TimeRange) (now : Nat) : Controller :=
  { c with context := { c.context with range } }.invalidateTopology.refresh now

/-- Switches the renderers; the call graph is fetched when its mode is entered. -/
def setMode (c : Controller) (mode : Mode) : Controller :=
  if mode = c.view.mode then c
  else
    let c := { c with view := { c.view with highlight := none, mode } }
    if mode = .topo then c.requestTopology else c

/-- Fetches the rows in an order. -/
def sortBy (c : Controller) (directive : String) : Controller :=
  c.issue { c.request [.table] with sort := some directive } .sorting

/-- A renderer picked a row or a node, or none. -/
def highlight (c : Controller) (id : Option UInt64) : Controller :=
  { c with view := { c.view with highlight := id } }

/-- Replaces the filter text. -/
def setFilter (c : Controller) (filter : String) : Controller :=
  { c with view := { c.view with filter } }

/-- Keeps the other end of labels that are cut. -/
def toggleDirection (c : Controller) : Controller :=
  { c with view := { c.view with direction := c.view.direction.toggle } }

/-! ### Completions -/

/-- Takes in the outcome of a fetch of table and flame graph. -/
def applyDiagrams (c : Controller) (outcome : Outcome) : Controller :=
  let view := { c.view with empty := outcome.showsEmpty, isLoading := false }
  match outcome with
  | .data d =>
    { c with view := { view with unit := d.unit, table := d.table, flame := d.flame },
             lastFailure := none }
  | .empty => { c with view, lastFailure := none }
  | .failed e => { c with view, lastFailure := some e }

/-- Takes in the outcome of a fetch of rows in an order; only data changes the rows. -/
def applySorting (c : Controller) (outcome : Outcome) : Controller :=
  match outcome with
  | .data d => { c with view := { c.view with table := d.table, highlight := none } }
  | .empty => c
  | .failed e => { c with lastFailure := some e }

/-- Takes in the outcome of a fetch of the call graph; that of an older context is dropped. -/
def applyTopology (c : Controller) (generation : Nat) (outcome : Outcome) : Controller :=
  let c := if c.topologyInFlight = some generation then { c with topologyInFlight := none } else c
  let c := { c with view := { c.view with isLoading := false } }
  if generation ≠ c.generation then c
  else
    match outcome with
    | .data d => { c with view := { c.view with topology := d.topology } }
    | .empty => { c with view := { c.view with topology := "" } }
    | .failed e => { c with view := { c.view with topology := "" }, lastFailure := some e }

/-- Takes in a completion. -/
def apply (c : Controller) (completion : Completion) : Controller :=
  let c := { c with inFlight := c.inFlight - 1 }
  match completion.purpose with
  | .diagrams => c.applyDiagrams completion.outcome
  | .sorting => c.applySorting completion.outcome
  | .topology generation => c.applyTopology generation completion.outcome

/-- Issues the fetch of every trigger that is due; also whether there was one. -/
def fireDue (c : Controller) (now : Nat) : Controller × Bool :=
  let (due, debouncer) := c.debouncer.takeDue now
  (due.foldl (fun c _ => c.fetchDiagrams) { c with debouncer }, !due.isEmpty)

/-- Fires what is due and then takes in what has arrived, in its order; also whether anything
changed. -/
def poll (c : Controller) (now : Nat) (arrived : List Completion) : Controller × Bool :=
  let (c, fired) := c.fireDue now
  (arrived.foldl apply c, fired || !arrived.isEmpty)

/-! ### Downloads -/

/-- What an image of the flame graph is made of. -/
structure Image where
  root : FlameNode
  unit : String
  keywords : List String

/-- A format to download in. -/
inductive DownloadFormat where
  /-- An image of the flame graph. -/
  | image
  /-- The raw profile; not supported. -/
  | pprof
deriving DecidableEq, Repr, Inhabited

/-- The image that a download would write, if there is one. -/
def image? (c : Controller) : DownloadFormat → Option Image
  | .image => c.view.flame.map fun root => ⟨root, c.view.unit, c.filterKeywords⟩
  | .pprof => none

/-- Hands the image to an exporter, which says where it wrote it; nothing to write is no error. -/
def download {ε : Type} (c : Controller) (format : DownloadFormat)
    (exporter : Image → Except ε String) : Except ε (Option String) :=
  match c.image? format with
  | none => .ok none
  | some image => (exporter image).map some

/-! ### State files -/

/-- The context and the displayed data as a record with ascending keys; `source` names the backend.
-/
def stateJson (c : Controller) (source : String) : Json :=
  .sorted (.obj
    [("source", .str source), ("params", c.context.params.toJson),
      ("start", .word (TimeRange.micros c.context.range.start)),
      ("end", .word (TimeRange.micros c.context.range.stop)),
      ("empty", .bool c.view.empty), ("unit", .str c.view.unit),
      ("table_data", .arr (c.view.table.map TableRow.toJson)),
      ("flame_data", (c.view.flame.map FlameNode.toJson).getD .null),
      ("call_graph_data", .str c.view.topology)])

/-- The text of a state file. -/
def stateText (c : Controller) (source : String) : String := (c.stateJson source).pretty

end Controller

end ProfileBrowser
