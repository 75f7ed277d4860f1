/-!
# Debouncing

A debouncer turns bursts of triggers into one firing each. Scheduling a key sets its deadline a
quiet period ahead, over the deadline that it may have; a key is due once its deadline has come.
-/

namespace ProfileBrowser

/-- Pending keys with their deadlines, each key once. Times are milliseconds. -/
structure Debouncer (κ : Type) where
  quiet : Nat
  pending : List (κ × Nat)
deriving Inhabited

namespace Debouncer

variable {κ : Type} [DecidableEq κ]

/-- A debouncer with nothing pending. -/
def new (quiet : Nat) : Debouncer κ := ⟨quiet, []⟩

/-- Schedules a key, or moves its deadline. -/
def schedule (d : Debouncer κ) (key : κ) (now : Nat) : Debouncer κ :=
  { d with pending := (key, now + d.quiet) :: d.pending.filter (·.1 ≠ key) }

/-- The keys whose deadline has come, and the debouncer without them. -/
def takeDue (d : Debouncer κ) (now : Nat) : List κ × Debouncer κ :=
  ((d.pending.filter (·.2 ≤ now)).map (·.1), { d with pending := d.pending.filter (now < ·.2) })

/-- The earliest deadline. -/
def nextDeadline (d : Debouncer κ) : Option Nat := (d.pending.map (·.2)).min?

/-- Whether a key is pending. -/
def isPending (d : Debouncer κ) (key : κ) : Bool := d.pending.any (·.1 = key)

end Debouncer

end ProfileBrowser
