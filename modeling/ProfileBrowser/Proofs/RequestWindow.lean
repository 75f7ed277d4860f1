import Mathlib.Algebra.Order.Field.Basic
import Mathlib.Data.Rat.Cast.Order
import Mathlib.Tactic.Linarith
import ProfileBrowser.Query.Request
/-!
# Windows of requests

A request says its window in whole microseconds from the epoch, as words of 64 bits. They are those of the two
instants, whichever comes first, exactly as long as the later one is less than `2 ^ 64` microseconds from the
epoch, and then they are in order and as far apart as the window is long (`window_of_instants`). Clocks of
64-bit seconds go on beyond that, and there the microseconds start again at 0: a window may end before it starts
(`window_starts_again`).
-/

namespace ProfileBrowser.TimeRange

/-- The instants of a clock of 64-bit seconds and their nanoseconds. -/
def OnClock (t : Int) : Prop := earliest ≤ t ∧ t < (Word.signedCount * Duration.perSecond : Nat)

instance : DecidablePred OnClock := fun t =>
  inferInstanceAs (Decidable (earliest ≤ t ∧ t < (Word.signedCount * Duration.perSecond : Nat)))

/-- The whole microseconds from the epoch to an instant, 0 for one before the epoch. -/
def wholeMicros (t : Int) : Int := max t 0 / 1000

/-- The first instant whose microseconds are no word. -/
def wordsEnd : Int := 1000 * Word.count

variable {a b t : Int}

theorem between_eq (a b : Int) : between a b = ⟨min a b, max a b⟩ := by
  rw [between]
  split_ifs with h
  · rw [min_eq_right h.le, max_eq_left h.le]
  · rw [min_eq_left (not_lt.mp h), max_eq_right (not_lt.mp h)]

theorem between_comm (a b : Int) : between a b = between b a := by
  rw [between_eq, between_eq, min_comm, max_comm]

theorem wholeMicros_le (h : a ≤ b) : wholeMicros a ≤ wholeMicros b := by
  simp only [wholeMicros]
  omega

/-- Microseconds start again at 0 where they are no word. -/
theorem toNat_micros (t : Int) : ((micros t).toNat : Int) = wholeMicros t % Word.count := by
  simp only [micros, wholeMicros, Word.count, UInt64.toNat_ofNat']
  omega

theorem micros_exact_iff (t : Int) : ((micros t).toNat : Int) = wholeMicros t ↔ t < wordsEnd := by
  rw [toNat_micros]
  simp only [wholeMicros, wordsEnd, Word.count]
  omega

/-- **Rounding down** brings two instants from the epoch on less than a microsecond closer or farther apart. -/
theorem abs_wholeMicros_sub_lt (ha : 0 ≤ a) (hb : 0 ≤ b) :
    |((wholeMicros b : ℚ) - wholeMicros a) - (b - a : Int) / 1000| < 1 := by
  have hsplit {t : Int} (ht : 0 ≤ t) :
      (wholeMicros t : ℚ) ≤ t / 1000 ∧ (t / 1000 : ℚ) < wholeMicros t + 1 := by
    have hwhole : wholeMicros t * 1000 ≤ t ∧ t < (wholeMicros t + 1) * 1000 := by
      simp only [wholeMicros]
      omega
    constructor
    · rw [le_div_iff₀ (by norm_num)]
      exact_mod_cast hwhole.1
    · rw [div_lt_iff₀ (by norm_num)]
      exact_mod_cast hwhole.2
  obtain ⟨halow, hahigh⟩ := hsplit ha
  obtain ⟨hblow, hbhigh⟩ := hsplit hb
  rw [Int.cast_sub, sub_div, abs_lt]
  constructor <;> linarith

/-- **The window of a request.** The two instants may be given in either order. The request starts and ends at
their whole microseconds exactly if the later instant comes before the end of the words. Then it does not end
before it starts, and if both instants are from the epoch on, it is as long as the window but for less than a
microsecond. -/
theorem window_of_instants (a b : Int) (params : Params) (kinds : List DiagramKind) (sort : Option String) :
    between a b = between b a ∧
    let r : Request := { Request.make params (between a b) kinds with sort }
    (((r.start.toNat : Int) = wholeMicros (min a b) ∧ (r.stop.toNat : Int) = wholeMicros (max a b)) ↔
      max a b < wordsEnd) ∧
    (max a b < wordsEnd → r.start ≤ r.stop ∧
      (0 ≤ min a b → |((r.stop.toNat : ℚ) - r.start.toNat) - (between a b).duration.nanos / 1000| < 1)) := by
  have hle : min a b ≤ max a b := min_le_max
  refine ⟨between_comm a b, ?_⟩
  simp only [Request.make, between_eq, duration, micros_exact_iff]
  refine ⟨⟨And.right, fun hend => ⟨hle.trans_lt hend, hend⟩⟩, fun hend => ?_⟩
  have hstart := (micros_exact_iff (min a b)).mpr (hle.trans_lt hend)
  have hstop := (micros_exact_iff (max a b)).mpr hend
  constructor
  · rw [UInt64.le_iff_toNat_le, ← Int.ofNat_le, hstart, hstop]
    exact wholeMicros_le hle
  · intro hepoch
    have hlength : (((max a b - min a b).toNat : Nat) : ℚ) = (max a b - min a b : Int) := by
      exact_mod_cast Int.toNat_of_nonneg (Int.sub_nonneg.mpr hle)
    rw [hlength, ← Int.cast_natCast, ← Int.cast_natCast (micros (min a b)).toNat, hstart, hstop]
    exact abs_wholeMicros_sub_lt hepoch (hepoch.trans hle)

/-- An hour, given from its end. -/
theorem window_of_instants_reversed :
    let r := Request.make .empty (between 1700003600987654321 1700000000123456789) [.table]
    max (1700003600987654321 : Int) 1700000000123456789 < wordsEnd ∧ r.start ≤ r.stop ∧
      |((r.stop.toNat : ℚ) - r.start.toNat) -
        (between 1700003600987654321 1700000000123456789).duration.nanos / 1000| < 1 :=
  have hend : max (1700003600987654321 : Int) 1700000000123456789 < wordsEnd := by decide
  have hwindow := window_of_instants 1700003600987654321 1700000000123456789 .empty [.table] none
  ⟨hend, (hwindow.2.2 hend).1, (hwindow.2.2 hend).2 (by decide)⟩

/-- The window from a second after the epoch to the end of the words starts at 1000000 and ends at 0. -/
theorem window_starts_again :
    ¬∀ (a b : Int) (params : Params) (kinds : List DiagramKind), OnClock a → OnClock b →
      (Request.make params (between a b) kinds).start ≤ (Request.make params (between a b) kinds).stop := by
  intro h
  have hordered := h 1000000000 18446744073709551616000 .empty [.table] (by decide) (by decide)
  exact absurd hordered (by decide)

end ProfileBrowser.TimeRange
