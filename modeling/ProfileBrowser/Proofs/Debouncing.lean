import ProfileBrowser.View.Debouncer
import Mathlib.Data.List.Induction
import Mathlib.Data.List.Nodup
/-!
# What a debouncer hands out

A debouncer is known by its past: the keys that were scheduled and those that were handed out, in the order
in which that happened. A key counts with the time for which it was scheduled last since it was handed out
(`lastScheduled?`), and the pending keys are those that have one (`Tracks`). So what is handed
out, what stays and the next deadline can be read off the past (`handedOut_of_past`), and of the past a key
needs only what was done to it.

The calls may come with any times, also with earlier ones than before.
-/

namespace ProfileBrowser.Debouncer

variable {κ : Type} [DecidableEq κ]

/-! ### Calls and the past -/

/-- What is asked of a debouncer. -/
inductive Call (κ : Type) where
  | schedule (key : κ) (time : Nat)
  | takeDue (now : Nat)

/-- Whether a call has to do with a key: those that schedule another one have not. -/
def Call.concerns (key : κ) : Call κ → Bool
  | .schedule other _ => other = key
  | .takeDue _ => true

/-- What has happened to a debouncer. -/
inductive Entry (κ : Type) where
  | scheduled (key : κ) (time : Nat)
  /-- Keys were asked for at a time and handed out. -/
  | handedOut (now : Nat) (due : List κ)

/-- The keys that were handed out, if any were asked for. -/
def Entry.due? : Entry κ → Option (List κ)
  | .scheduled _ _ => none
  | .handedOut _ due => some due

/-- The time for which a key was scheduled last since it was handed out. The past has its latest entry
first. -/
def lastScheduled? (key : κ) : List (Entry κ) → Option Nat
  | [] => none
  | .scheduled other time :: past => if other = key then some time else lastScheduled? key past
  | .handedOut _ due :: past => if key ∈ due then none else lastScheduled? key past

/-- A debouncer with its past after a call. -/
def call : Debouncer κ × List (Entry κ) → Call κ → Debouncer κ × List (Entry κ)
  | (d, past), .schedule key time => (d.schedule key time, .scheduled key time :: past)
  | (d, past), .takeDue now => ((d.takeDue now).2, .handedOut now (d.takeDue now).1 :: past)

/-- A new debouncer with its past after calls. -/
def run (quiet : Nat) (calls : List (Call κ)) : Debouncer κ × List (Entry κ) :=
  calls.foldl call (new quiet, [])

/-- At which of the times that keys were asked for a key was handed out. -/
def returned (key : κ) (past : List (Entry κ)) : List Bool :=
  (past.filterMap Entry.due?).map (key ∈ ·)

/-! ### The debouncer and its past -/

/-- A debouncer has pending what its past says: each key that has been scheduled since it was handed out,
once, with the deadline of its latest schedule. -/
structure Tracks (d : Debouncer κ) (past : List (Entry κ)) : Prop where
  nodup : (d.pending.map Prod.fst).Nodup
  mem_pending : ∀ key deadline, (key, deadline) ∈ d.pending ↔
    ∃ time, lastScheduled? key past = some time ∧ deadline = time + d.quiet

variable {d : Debouncer κ} {past : List (Entry κ)}

theorem tracks_new (quiet : Nat) : Tracks (new quiet : Debouncer κ) [] :=
  ⟨List.nodup_nil, fun key deadline => by simp [new, lastScheduled?]⟩

/-- The keys that are handed out. -/
theorem Tracks.mem_takeDue (h : Tracks d past) (now : Nat) (key : κ) :
    key ∈ (d.takeDue now).1 ↔ ∃ time, lastScheduled? key past = some time ∧ time + d.quiet ≤ now := by
  simp only [takeDue, List.mem_map, List.mem_filter, decide_eq_true_eq, Prod.exists, h.mem_pending]
  constructor
  · rintro ⟨_, _, ⟨⟨time, htime, rfl⟩, hdue⟩, rfl⟩
    exact ⟨time, htime, hdue⟩
  · rintro ⟨time, htime, hdue⟩
    exact ⟨key, time + d.quiet, ⟨⟨time, htime, rfl⟩, hdue⟩, rfl⟩

/-- The keys that are pending. -/
theorem Tracks.isPending_iff (h : Tracks d past) (key : κ) :
    d.isPending key ↔ ∃ time, lastScheduled? key past = some time := by
  simp only [isPending, List.any_eq_true, decide_eq_true_eq, Prod.exists, h.mem_pending]
  constructor
  · rintro ⟨_, _, ⟨time, htime, -⟩, rfl⟩
    exact ⟨time, htime⟩
  · rintro ⟨time, htime⟩
    exact ⟨key, _, ⟨time, htime, rfl⟩, rfl⟩

/-- The keys that stay pending. -/
theorem Tracks.isPending_takeDue (h : Tracks d past) (now : Nat) (key : κ) :
    (d.takeDue now).2.isPending key ↔
      ∃ time, lastScheduled? key past = some time ∧ now < time + d.quiet := by
  simp only [isPending, takeDue, List.any_eq_true, List.mem_filter, decide_eq_true_eq, Prod.exists,
    h.mem_pending]
  constructor
  · rintro ⟨_, _, ⟨⟨time, htime, rfl⟩, hlater⟩, rfl⟩
    exact ⟨time, htime, hlater⟩
  · rintro ⟨time, htime, hlater⟩
    exact ⟨key, _, ⟨⟨time, htime, rfl⟩, hlater⟩, rfl⟩

/-- **Scheduling keeps the debouncer in step with its past.** -/
theorem Tracks.schedule (h : Tracks d past) (key : κ) (time : Nat) :
    Tracks (d.schedule key time) (.scheduled key time :: past) := by
  constructor
  · simp only [Debouncer.schedule, List.map_cons, List.nodup_cons, List.mem_map, List.mem_filter,
      decide_eq_true_eq, not_exists, not_and]
    refine ⟨?_, h.nodup.sublist (List.filter_sublist.map _)⟩
    rintro m ⟨-, hother⟩ heq
    exact hother heq
  · intro other deadline
    simp only [Debouncer.schedule, List.mem_cons, Prod.mk.injEq, List.mem_filter, decide_eq_true_eq,
      h.mem_pending, lastScheduled?]
    by_cases hkey : key = other
    · subst hkey
      simp
    · simp [hkey, Ne.symm hkey]

/-- **So does handing out.** -/
theorem Tracks.takeDue (h : Tracks d past) (now : Nat) :
    Tracks (d.takeDue now).2 (.handedOut now (d.takeDue now).1 :: past) := by
  constructor
  · exact h.nodup.sublist (List.filter_sublist.map _)
  · intro key deadline
    have hdue := h.mem_takeDue now key
    have hstays : (key, deadline) ∈ (d.takeDue now).2.pending ↔
        (key, deadline) ∈ d.pending ∧ now < deadline := by
      simp [Debouncer.takeDue]
    rw [hstays, h.mem_pending, lastScheduled?]
    split_ifs with hkey
    · -- Its only deadline has come, so it does not stay.
      obtain ⟨time, htime, hle⟩ := hdue.mp hkey
      refine iff_of_false ?_ (by simp)
      rintro ⟨⟨time', htime', rfl⟩, hlater⟩
      obtain rfl : time = time' := Option.some.inj (htime.symm.trans htime')
      omega
    · constructor
      · rintro ⟨hpending, -⟩
        exact hpending
      · rintro ⟨time, htime, rfl⟩
        have hearly : ¬ time + d.quiet ≤ now := fun hle => hkey (hdue.mpr ⟨time, htime, hle⟩)
        exact ⟨⟨time, htime, rfl⟩, Nat.lt_of_not_le hearly⟩

/-- So does every call, which leaves the quiet period as it is. -/
theorem Tracks.call (h : Tracks d past) (c : Call κ) :
    Tracks (Debouncer.call (d, past) c).1 (Debouncer.call (d, past) c).2 ∧
      (Debouncer.call (d, past) c).1.quiet = d.quiet := by
  cases c with
  | schedule key time => exact ⟨h.schedule key time, rfl⟩
  | takeDue now => exact ⟨h.takeDue now, rfl⟩

/-- **After any calls a debouncer is in step with its past.** -/
theorem tracks_run (quiet : Nat) (calls : List (Call κ)) :
    Tracks (run quiet calls).1 (run quiet calls).2 ∧ (run quiet calls).1.quiet = quiet := by
  -- From the last call on backwards, for the past has its latest entry first.
  induction calls using List.reverseRecOn with
  | nil => exact ⟨tracks_new quiet, rfl⟩
  | append_singleton calls c ih =>
    rw [run, List.foldl_concat]
    obtain ⟨htracks, hquiet⟩ := ih.1.call c
    exact ⟨htracks, hquiet.trans ih.2⟩

/-! ### Keys on their own -/

/-- Two debouncers with their pasts that agree on a key: it was scheduled last for the same time, and at
the same times that keys were asked for it was handed out. -/
structure Agree (key : κ) (s t : Debouncer κ × List (Entry κ)) : Prop where
  left : Tracks s.1 s.2
  right : Tracks t.1 t.2
  quiet : s.1.quiet = t.1.quiet
  last : lastScheduled? key s.2 = lastScheduled? key t.2
  returned : returned key s.2 = returned key t.2

variable {s t : Debouncer κ × List (Entry κ)} {key : κ}

/-- A call that schedules another key changes nothing of it. -/
theorem Agree.other (h : Agree key s t) {c : Call κ} (hother : ¬ c.concerns key) :
    Agree key (call s c) t := by
  cases c with
  | schedule other time =>
    have hne : other ≠ key := by simpa [Call.concerns] using hother
    refine ⟨h.left.schedule other time, h.right, h.quiet, ?_, h.returned⟩
    show (if other = key then some time else lastScheduled? key s.2) = _
    rw [if_neg hne, h.last]
  | takeDue now => exact absurd rfl hother

/-- The same call has the same effect on it. -/
theorem Agree.same (h : Agree key s t) (c : Call κ) : Agree key (call s c) (call t c) := by
  obtain ⟨hleft, hleftQuiet⟩ := h.left.call c
  obtain ⟨hright, hrightQuiet⟩ := h.right.call c
  have hquiet : (call s c).1.quiet = (call t c).1.quiet := by
    rw [hleftQuiet, hrightQuiet, h.quiet]
  cases c with
  | schedule other time =>
    refine ⟨hleft, hright, hquiet, ?_, h.returned⟩
    show (if other = key then some time else lastScheduled? key s.2) =
      if other = key then some time else lastScheduled? key t.2
    rw [h.last]
  | takeDue now =>
    have hdue : key ∈ (s.1.takeDue now).1 ↔ key ∈ (t.1.takeDue now).1 := by
      rw [h.left.mem_takeDue, h.right.mem_takeDue, h.last, h.quiet]
    refine ⟨hleft, hright, hquiet, ?_, ?_⟩
    · show (if key ∈ (s.1.takeDue now).1 then none else lastScheduled? key s.2) =
        if key ∈ (t.1.takeDue now).1 then none else lastScheduled? key t.2
      simp only [hdue, h.last]
    · show decide (key ∈ (s.1.takeDue now).1) :: Debouncer.returned key s.2 =
        decide (key ∈ (t.1.takeDue now).1) :: Debouncer.returned key t.2
      simp only [hdue, h.returned]

/-- **Without the calls that schedule other keys a key fares the same.** -/
theorem Agree.foldl (h : Agree key s t) (calls : List (Call κ)) :
    Agree key (calls.foldl call s) ((calls.filter (·.concerns key)).foldl call t) := by
  induction calls generalizing s t with
  | nil => exact h
  | cons c calls ih =>
    -- A call that does not concern the key is made on the left alone.
    by_cases hc : c.concerns key
    · rw [List.filter_cons_of_pos hc, List.foldl_cons, List.foldl_cons]
      exact ih (h.same c)
    · rw [List.filter_cons_of_neg hc, List.foldl_cons]
      exact ih (h.other hc)

/-! ### What is handed out -/

/-- The next deadline is the earliest one. -/
theorem Tracks.nextDeadline_eq_some (h : Tracks d past) (deadline : Nat) :
    d.nextDeadline = some deadline ↔
      (∃ key time, lastScheduled? key past = some time ∧ deadline = time + d.quiet) ∧
        ∀ key time, lastScheduled? key past = some time → deadline ≤ time + d.quiet := by
  have hmem : ∀ deadline, deadline ∈ d.pending.map Prod.snd ↔
      ∃ key time, lastScheduled? key past = some time ∧ deadline = time + d.quiet := by
    intro deadline
    simp [h.mem_pending]
  rw [nextDeadline, List.min?_eq_some_iff, hmem]
  refine and_congr_right fun _ => ⟨fun hle key time htime => ?_, fun hle other hother => ?_⟩
  · exact hle _ ((hmem _).mpr ⟨key, time, htime, rfl⟩)
  · obtain ⟨key, time, htime, rfl⟩ := (hmem other).mp hother
    exact hle key time htime

theorem Tracks.nextDeadline_eq_none (h : Tracks d past) :
    d.nextDeadline = none ↔ ∀ key, lastScheduled? key past = none := by
  rw [nextDeadline, List.min?_eq_none_iff, List.map_eq_nil_iff, List.eq_nil_iff_forall_not_mem]
  simp only [Prod.forall, h.mem_pending, Option.eq_none_iff_forall_ne_some]
  constructor
  · intro hnone key time htime
    exact hnone key _ ⟨time, htime, rfl⟩
  · rintro hnone key _ ⟨time, htime, -⟩
    exact hnone key time htime

/-- **What a debouncer hands out, from its past.** After any calls for any keys with any times, the keys
that are handed out at a time are those that were scheduled since they were handed out last and whose
latest schedule is a quiet period ago, each once; the other scheduled ones stay pending. The next
deadline is the earliest of a latest schedule and a quiet period. And when a key is handed out does not
depend on the calls that schedule other keys. -/
theorem handedOut_of_past (quiet : Nat) (calls : List (Call κ)) :
    let d := (run quiet calls).1
    let past := (run quiet calls).2
    (∀ now, (d.takeDue now).1.Nodup ∧
      (∀ key, key ∈ (d.takeDue now).1 ↔
        ∃ time, lastScheduled? key past = some time ∧ time + quiet ≤ now) ∧
      ∀ key, (d.takeDue now).2.isPending key ↔
        ∃ time, lastScheduled? key past = some time ∧ now < time + quiet) ∧
    (∀ key, d.isPending key ↔ ∃ time, lastScheduled? key past = some time) ∧
    (∀ deadline, d.nextDeadline = some deadline ↔
      (∃ key time, lastScheduled? key past = some time ∧ deadline = time + quiet) ∧
        ∀ key time, lastScheduled? key past = some time → deadline ≤ time + quiet) ∧
    (d.nextDeadline = none ↔ ∀ key, ¬ d.isPending key) ∧
    ∀ key, returned key past = returned key (run quiet (calls.filter (·.concerns key))).2 := by
  intro d past
  obtain ⟨h, hquiet⟩ := tracks_run quiet calls
  refine ⟨fun now => ⟨?_, fun key => ?_, fun key => ?_⟩, h.isPending_iff, fun deadline => ?_, ?_, ?_⟩
  · exact h.nodup.sublist (List.filter_sublist.map _)
  · rw [h.mem_takeDue, hquiet]
  · rw [h.isPending_takeDue, hquiet]
  · rw [h.nextDeadline_eq_some, hquiet]
  · rw [h.nextDeadline_eq_none]
    refine forall_congr' fun key => ?_
    rw [h.isPending_iff, not_exists, Option.eq_none_iff_forall_ne_some]
  · intro key
    have hnew : Agree key (new quiet, []) (new quiet, []) :=
      ⟨tracks_new quiet, tracks_new quiet, rfl, rfl, rfl⟩
    exact (hnew.foldl calls).returned

end ProfileBrowser.Debouncer
