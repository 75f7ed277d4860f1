import ProfileBrowser.View.Controller
/-!
# The exchange with the backend

A controller with the backend beside it, on a clock that moves only when it is told to. The requests
of the ledger are numbered in the order of their issue; each is answered once, in any order, and an
answered request leaves its completion in a queue, from which the next poll takes it.

`settle` lets everything come to rest: every request is answered, every completion applied, and the
clock jumps to each deadline that is still ahead.
-/

namespace ProfileBrowser

/-- A controller, its clock and its post. Times are milliseconds. -/
structure Exchange where
  controller : Controller
  now : Nat := 0
  /-- The numbers of the answered requests. -/
  answered : List Nat := []
  /-- The completions that have not been applied, in the order of their arrival. -/
  arrived : List Completion := []
deriving Inhabited

namespace Exchange

/-- A new controller at time 0. -/
def new (context : Context) (quiet : Nat) (mode : Mode) : Exchange :=
  { controller := .new context quiet mode 0 }

/-- The fetch with a number. -/
def fetch? (x : Exchange) (number : Nat) : Option Fetch := x.controller.ledger.reverse[number]?

/-- The numbers of the requests without an answer, in the order of their issue. -/
def waiting (x : Exchange) : List Nat :=
  (List.range x.controller.requestsIssued).filter fun n => !x.answered.contains n

/-- Answers a request that waits for it; any other number changes nothing. -/
def answer (x : Exchange) (number : Nat) (reply : Request → Outcome) : Exchange :=
  if x.answered.contains number then x
  else
    match x.fetch? number with
    | none => x
    | some fetch =>
      { x with answered := number :: x.answered,
               arrived := x.arrived ++ [⟨fetch.purpose, reply fetch.request⟩] }

/-- Answers every request that waits for it. -/
def answerAll (x : Exchange) (reply : Request → Outcome) : Exchange :=
  x.waiting.foldl (fun x number => x.answer number reply) x

/-- Polls the controller; also whether anything changed. -/
def poll (x : Exchange) : Exchange × Bool :=
  let (controller, changed) := x.controller.poll x.now x.arrived
  ({ x with controller, arrived := [] }, changed)

/-! ### Events -/

/-- What can happen to an exchange. -/
inductive Event where
  | setParams (params : Params)
  | setRange (range : TimeRange)
  /-- Parameters or window are to be fetched again as they are. -/
  | refresh
  | setMode (mode : Mode)
  | sortBy (directive : String)
  | highlight (id : Option UInt64)
  | setFilter (filter : String)
  | toggleDirection
  | advance (millis : Nat)
  | poll
  | answer (number : Nat) (outcome : Outcome)

/-- What an event does. -/
def handle (x : Exchange) : Event → Exchange
  | .setParams params => { x with controller := x.controller.setParams params x.now }
  | .setRange range => { x with controller := x.controller.setRange range x.now }
  | .refresh => { x with controller := x.controller.refresh x.now }
  | .setMode mode => { x with controller := x.controller.setMode mode }
  | .sortBy directive => { x with controller := x.controller.sortBy directive }
  | .highlight id => { x with controller := x.controller.highlight id }
  | .setFilter filter => { x with controller := x.controller.setFilter filter }
  | .toggleDirection => { x with controller := x.controller.toggleDirection }
  | .advance millis => { x with now := x.now + millis }
  | .poll => x.poll.1
  | .answer number outcome => x.answer number fun _ => outcome

/-- What a sequence of events does. -/
def run (x : Exchange) (events : List Event) : Exchange := events.foldl handle x

/-! ### Coming to rest -/

/-- Everything that happens without the clock: what is due is fired, every request is answered, and
every completion is applied. -/
def exhaust (x : Exchange) (reply : Request → Outcome) : Exchange :=
  (x.poll.1.answerAll reply).poll.1

/-- Exhausts the exchange at every deadline, over at most `fuel` of them. -/
def settleWithin (reply : Request → Outcome) : Nat → Exchange → Exchange
  | 0, x => x.exhaust reply
  | fuel + 1, x =>
    let x := x.exhaust reply
    match x.controller.debouncer.nextDeadline with
    | none => x
    | some deadline => settleWithin reply fuel { x with now := max x.now deadline }

/-- Lets everything come to rest. Each deadline takes at least one pending trigger away, and none is
scheduled meanwhile. -/
def settle (x : Exchange) (reply : Request → Outcome) : Exchange :=
  settleWithin reply x.controller.debouncer.pending.length x

end Exchange

end ProfileBrowser
