import Mathlib.Algebra.Order.Field.Power
import Mathlib.Algebra.Order.Floor.Semifield
import Mathlib.Data.Nat.Cast.Order.Field
import Mathlib.Data.Rat.Floor
import Mathlib.Tactic.FieldSimp
import Mathlib.Tactic.GCongr
import Mathlib.Tactic.Linarith
import Mathlib.Tactic.Positivity
import Mathlib.Tactic.Ring
import ProfileBrowser.Binary64.Decimal
/-!
# Rounding keeps the order

Of two ratios the greater one is rounded to the greater number (`Binary64.ofRatio_atMost`). All that is
computed without signs rounds one ratio, so sums aside it keeps the order in its first operand:
products (`mul_atMost`), quotients (`div_atMost`) and, among numbers that a divisor goes into equally often,
remainders (`rem_atMost`); and so do the whole numbers that are taken out of a number (`truncateTo_le`,
`inPlaces_le`). What is computed from a whole number is therefore bounded by what is computed from the ends
of an interval around it, and these are closed terms.

Ratios and numbers are compared as rationals. A ratio is rounded on a grid of multiples of a power of two:
a greater ratio may have a coarser grid, but then both grids have that power of two in between on which the
coarser one starts (`rounded_le`).
-/

namespace ProfileBrowser.Binary64

/-! ### The nearest whole number -/

section RoundHalfEven

variable {a b c d k : Nat}

/-- The nearest whole number is at most half of one away, and on a tie it is even. -/
theorem roundHalfEven_spec (a : Nat) (hb : 0 < b) :
    (a / b : ℚ) ≤ roundHalfEven a b + 1 / 2 ∧ (roundHalfEven a b : ℚ) - 1 / 2 ≤ a / b ∧
    ((a / b : ℚ) = roundHalfEven a b + 1 / 2 → Even (roundHalfEven a b)) ∧
    ((a / b : ℚ) = roundHalfEven a b - 1 / 2 → Even (roundHalfEven a b)) := by
  have hbq : (0 : ℚ) < b := by exact_mod_cast hb
  have hsplit : (a / b : ℚ) = (a / b : Nat) + (a % b : Nat) / b := by
    have hdiv : (a : ℚ) = b * (a / b : Nat) + (a % b : Nat) := by exact_mod_cast (Nat.div_add_mod a b).symm
    field_simp
    linarith
  have hrest : ((a % b : Nat) / b : ℚ) < 1 := by
    rw [div_lt_one hbq]
    exact_mod_cast Nat.mod_lt a hb
  have hnonneg : (0 : ℚ) ≤ (a % b : Nat) / b := by positivity
  rw [hsplit, roundHalfEven]
  generalize a / b = whole
  split_ifs with hless hmore heven
  · have hhalf : ((a % b : Nat) / b : ℚ) < 1 / 2 := by
      rw [div_lt_div_iff₀ hbq two_pos]
      exact_mod_cast (by omega : a % b * 2 < 1 * b)
    refine ⟨by linarith, by linarith, fun h => ?_, fun h => ?_⟩ <;> exfalso <;> linarith
  · have hhalf : (1 / 2 : ℚ) < (a % b : Nat) / b := by
      rw [div_lt_div_iff₀ two_pos hbq]
      exact_mod_cast (by omega : 1 * b < a % b * 2)
    push_cast
    refine ⟨by linarith, by linarith, fun h => ?_, fun h => ?_⟩ <;> exfalso <;> linarith
  all_goals
    have hhalf : ((a % b : Nat) / b : ℚ) = 1 / 2 := by
      rw [div_eq_div_iff hbq.ne' two_ne_zero]
      exact_mod_cast (by omega : a % b * 2 = 1 * b)
  · have hparity : Even whole := Nat.even_iff.mpr heven
    exact ⟨by linarith, by linarith, fun _ => hparity, fun _ => hparity⟩
  · have hparity : Even (whole + 1) := Nat.even_iff.mpr (by omega)
    push_cast
    exact ⟨by linarith, by linarith, fun _ => hparity, fun _ => hparity⟩

/-- **The nearest whole number keeps the order.** -/
theorem roundHalfEven_le (hb : 0 < b) (hd : 0 < d) (h : (a / b : ℚ) ≤ c / d) :
    roundHalfEven a b ≤ roundHalfEven c d := by
  obtain ⟨-, hlow, -, htie⟩ := roundHalfEven_spec a hb
  obtain ⟨hhigh, -, htie', -⟩ := roundHalfEven_spec c hd
  by_contra hlt
  have hle : (roundHalfEven c d : ℚ) + 1 ≤ roundHalfEven a b := by exact_mod_cast Nat.lt_of_not_le hlt
  -- Both ratios lie half way between two neighbours, one of which is odd.
  have heven := htie (by linarith)
  have heven' := htie' (by linarith)
  have hnext : roundHalfEven a b = roundHalfEven c d + 1 := by
    have hnext : (roundHalfEven a b : ℚ) = roundHalfEven c d + 1 := by linarith
    exact_mod_cast hnext
  rw [hnext] at heven
  exact (Nat.not_even_iff_odd.mpr heven'.add_one) heven

theorem roundHalfEven_one (k : Nat) : roundHalfEven k 1 = k := by
  simp [roundHalfEven, Nat.mod_one]

theorem le_roundHalfEven (hb : 0 < b) (h : (k : ℚ) ≤ a / b) : k ≤ roundHalfEven a b := by
  have hle := roundHalfEven_le (a := k) Nat.one_pos hb (by simpa using h)
  rwa [roundHalfEven_one] at hle

theorem roundHalfEven_le_of_le (hb : 0 < b) (h : (a / b : ℚ) ≤ k) : roundHalfEven a b ≤ k := by
  have hle := roundHalfEven_le (c := k) hb Nat.one_pos (by simpa using h)
  rwa [roundHalfEven_one] at hle

end RoundHalfEven

/-! ### Powers of two -/

theorem twoTo_pos (n : Nat) : 0 < twoTo n := Nat.pow_pos two_pos

theorem cast_twoTo {q : Int} (h : 0 ≤ q) : (twoTo q.toNat : ℚ) = 2 ^ q := by
  have hcast : (twoTo q.toNat : ℚ) = 2 ^ q.toNat := by exact_mod_cast rfl
  rw [hcast, ← zpow_natCast, Int.toNat_of_nonneg h]

theorem powerOfTwo_pos (q : Int) : 0 < (powerOfTwo q).1 ∧ 0 < (powerOfTwo q).2 :=
  ⟨twoTo_pos _, twoTo_pos _⟩

theorem powerOfTwo_eq (q : Int) : ((powerOfTwo q).1 / (powerOfTwo q).2 : ℚ) = 2 ^ q := by
  simp only [powerOfTwo]
  rcases le_total 0 q with h | h
  · rw [cast_twoTo h, Int.toNat_of_nonpos (by omega)]
    simp [twoTo]
  · rw [cast_twoTo (by omega : 0 ≤ -q), Int.toNat_of_nonpos h]
    simp [twoTo]

/-- The magnitude of a number as a ratio. -/
theorem cast_ratio (m : Nat) (q : Int) : ((ratio m q).1 / (ratio m q).2 : ℚ) = m * 2 ^ q := by
  simp only [ratio, Nat.cast_mul, mul_div_assoc, ← powerOfTwo_eq]

theorem ratio_pos (m : Nat) (q : Int) : 0 < (ratio m q).2 := (powerOfTwo_pos q).2

theorem leastFull_mul (q : Int) : (leastFull * 2 ^ q : ℚ) = 2 ^ (52 + q) := by
  rw [zpow_add₀ two_ne_zero]
  norm_num [leastFull]

theorem significandBound_mul (q : Int) : (significandBound * 2 ^ q : ℚ) = 2 ^ (53 + q) := by
  rw [zpow_add₀ two_ne_zero]
  norm_num [significandBound]

variable {num den num' den' : Nat}

/-- The logarithm is that of the greatest power of two below a ratio. -/
theorem floorLog2_spec (hnum : 0 < num) (hden : 0 < den) :
    (2 : ℚ) ^ floorLog2 num den ≤ num / den ∧ (num / den : ℚ) < 2 ^ (floorLog2 num den + 1) := by
  have hdenq : (0 : ℚ) < den := by exact_mod_cast hden
  have hnumlow : (2 : ℚ) ^ (Nat.log2 num : Int) ≤ num := by
    exact_mod_cast Nat.log2_self_le hnum.ne'
  have hnumhigh : (num : ℚ) < 2 ^ ((Nat.log2 num : Int) + 1) := by
    exact_mod_cast Nat.lt_log2_self
  have hdenlow : (2 : ℚ) ^ (Nat.log2 den : Int) ≤ den := by
    exact_mod_cast Nat.log2_self_le hden.ne'
  have hdenhigh : (den : ℚ) < 2 ^ ((Nat.log2 den : Int) + 1) := by
    exact_mod_cast Nat.lt_log2_self
  have hlow : (2 : ℚ) ^ ((Nat.log2 num : Int) - Nat.log2 den - 1) ≤ num / den := by
    rw [le_div_iff₀ hdenq]
    calc (2 : ℚ) ^ ((Nat.log2 num : Int) - Nat.log2 den - 1) * den
        ≤ 2 ^ ((Nat.log2 num : Int) - Nat.log2 den - 1) * 2 ^ ((Nat.log2 den : Int) + 1) := by gcongr
      _ = 2 ^ (Nat.log2 num : Int) := by rw [← zpow_add₀ two_ne_zero]; congr 1; ring
      _ ≤ num := hnumlow
  have hhigh : (num / den : ℚ) < 2 ^ ((Nat.log2 num : Int) - Nat.log2 den + 1) := by
    rw [div_lt_iff₀ hdenq]
    calc (num : ℚ) < 2 ^ ((Nat.log2 num : Int) + 1) := hnumhigh
      _ = 2 ^ ((Nat.log2 num : Int) - Nat.log2 den + 1) * 2 ^ (Nat.log2 den : Int) := by
        rw [← zpow_add₀ two_ne_zero]; congr 1; ring
      _ ≤ 2 ^ ((Nat.log2 num : Int) - Nat.log2 den + 1) * den := by gcongr
  simp only [floorLog2]
  generalize (Nat.log2 num : Int) - Nat.log2 den = e at hlow hhigh ⊢
  have hpower : den * (powerOfTwo e).1 ≤ num * (powerOfTwo e).2 ↔ (2 : ℚ) ^ e ≤ num / den := by
    have hb : (0 : ℚ) < (powerOfTwo e).2 := by exact_mod_cast (powerOfTwo_pos e).2
    rw [← powerOfTwo_eq, div_le_div_iff₀ hb hdenq]
    norm_cast
    rw [Nat.mul_comm den]
  split_ifs with h
  · exact ⟨hpower.mp h, hhigh⟩
  · refine ⟨hlow, ?_⟩
    rw [sub_add_cancel]
    exact not_le.mp (mt hpower.mpr h)

/-! ### A ratio on its grid -/

/-- The exponent of the grid on which a ratio is rounded. -/
def gridExponent (num den : Nat) : Int := max (floorLog2 num den - 52) leastExponent

/-- The number of steps of its grid to which a ratio is rounded. -/
def gridSteps (num den : Nat) : Nat :=
  roundHalfEven (num * (powerOfTwo (gridExponent num den)).2) (den * (powerOfTwo (gridExponent num den)).1)

/-- What a ratio is rounded to if exponents are not bounded. -/
def rounded (num den : Nat) : ℚ := gridSteps num den * 2 ^ gridExponent num den

theorem gridExponent_le (hnum : 0 < num) (hden : 0 < den) (hnum' : 0 < num') (hden' : 0 < den')
    (h : (num / den : ℚ) ≤ num' / den') : gridExponent num den ≤ gridExponent num' den' := by
  have hlog : floorLog2 num den < floorLog2 num' den' + 1 := by
    rw [← zpow_lt_zpow_iff_right₀ (one_lt_two : (1 : ℚ) < 2)]
    exact (floorLog2_spec hnum hden).1.trans_lt (h.trans_lt (floorLog2_spec hnum' hden').2)
  simp only [gridExponent]
  omega

/-- A ratio in steps of a grid, as it is rounded. -/
theorem cast_steps (num den : Nat) (q : Int) :
    ((num * (powerOfTwo q).2 : Nat) / (den * (powerOfTwo q).1 : Nat) : ℚ) = num / den / 2 ^ q := by
  have hpos := powerOfTwo_pos q
  have ha : (0 : ℚ) < (powerOfTwo q).1 := by exact_mod_cast hpos.1
  have hb : (0 : ℚ) < (powerOfTwo q).2 := by exact_mod_cast hpos.2
  rw [← powerOfTwo_eq]
  push_cast
  field_simp

theorem steps_pos (hden : 0 < den) (q : Int) : 0 < den * (powerOfTwo q).1 :=
  Nat.mul_pos hden (powerOfTwo_pos q).1

/-- No ratio is more than a full significand on its grid. -/
theorem gridSteps_le (hnum : 0 < num) (hden : 0 < den) : gridSteps num den ≤ significandBound := by
  refine roundHalfEven_le_of_le (steps_pos hden _) ?_
  rw [cast_steps, div_le_iff₀ (by positivity)]
  calc (num / den : ℚ) ≤ 2 ^ (floorLog2 num den + 1) := (floorLog2_spec hnum hden).2.le
    _ ≤ 2 ^ (53 + gridExponent num den) := by
      refine zpow_le_zpow_right₀ one_le_two ?_
      simp only [gridExponent]
      omega
    _ = significandBound * 2 ^ gridExponent num den := (significandBound_mul _).symm

/-- Above the finest grid every ratio is at least the least full significand. -/
theorem leastFull_le_gridSteps (hnum : 0 < num) (hden : 0 < den)
    (h : leastExponent < gridExponent num den) : leastFull ≤ gridSteps num den := by
  refine le_roundHalfEven (steps_pos hden _) ?_
  rw [cast_steps, le_div_iff₀ (by positivity)]
  calc (leastFull * 2 ^ gridExponent num den : ℚ) = 2 ^ (52 + gridExponent num den) := leastFull_mul _
    _ ≤ 2 ^ floorLog2 num den := by
      refine zpow_le_zpow_right₀ one_le_two ?_
      simp only [gridExponent] at h ⊢
      omega
    _ ≤ num / den := (floorLog2_spec hnum hden).1

/-- **Rounding keeps the order** of ratios. -/
theorem rounded_le (hnum : 0 < num) (hden : 0 < den) (hnum' : 0 < num') (hden' : 0 < den')
    (h : (num / den : ℚ) ≤ num' / den') : rounded num den ≤ rounded num' den' := by
  rcases (gridExponent_le hnum hden hnum' hden' h).eq_or_lt with hgrid | hgrid
  · have hsteps : gridSteps num den ≤ gridSteps num' den' := by
      refine roundHalfEven_le (steps_pos hden _) (steps_pos hden' _) ?_
      rw [cast_steps, cast_steps, hgrid]
      gcongr
    simp only [rounded]
    rw [hgrid]
    gcongr
  · -- The power of two on which the coarser grid starts lies between the two.
    have hleast : leastExponent < gridExponent num' den' :=
      (le_max_right _ _ : leastExponent ≤ gridExponent num den).trans_lt hgrid
    calc rounded num den ≤ significandBound * 2 ^ gridExponent num den := by
          simp only [rounded]
          gcongr
          exact gridSteps_le hnum hden
      _ = leastFull * 2 ^ (gridExponent num den + 1) := by
        rw [significandBound_mul, leastFull_mul]
        congr 1
        ring
      _ ≤ gridSteps num' den' * 2 ^ gridExponent num' den' := by
        have hsteps := leastFull_le_gridSteps hnum' hden' hleast
        have hpower : (2 : ℚ) ^ (gridExponent num den + 1) ≤ 2 ^ gridExponent num' den' :=
          zpow_le_zpow_right₀ one_le_two hgrid
        gcongr

/-! ### Numbers without a sign -/

/-- One number is at most another one, both without a sign. -/
inductive AtMost : Binary64 → Binary64 → Prop
  | finite {m n : Nat} {q r : Int} (h : (m * 2 ^ q : ℚ) ≤ n * 2 ^ r) :
    AtMost (.finite false m q) (.finite false n r)
  | below (m : Nat) (q : Int) : AtMost (.finite false m q) (.infinite false)
  | infinite : AtMost (.infinite false) (.infinite false)

namespace AtMost

variable {x y z : Binary64}

theorem trans (h : AtMost x y) (h' : AtMost y z) : AtMost x z := by
  cases h with
  | finite h =>
    cases h' with
    | finite h' => exact .finite (h.trans h')
    | below => exact .below _ _
  | below =>
    cases h'
    exact .below _ _
  | infinite => exact h'

theorem left (h : AtMost x y) : AtMost x x := by
  cases h with
  | finite => exact .finite le_rfl
  | below => exact .finite le_rfl
  | infinite => exact .infinite

theorem right (h : AtMost x y) : AtMost y y := by
  cases h with
  | finite => exact .finite le_rfl
  | below | infinite => exact .infinite

/-- An infinity is above every number. -/
theorem top (h : AtMost x x) : AtMost x (.infinite false) := by
  cases h with
  | finite => exact .below _ _
  | infinite => exact .infinite

/-- What is at most a finite number is finite. -/
theorem exists_finite {n : Nat} {r : Int} (h : AtMost x (.finite false n r)) :
    ∃ m q, x = .finite false m q := by
  cases h
  exact ⟨_, _, rfl⟩

end AtMost

/-- A significand on a finer grid stands for the same number. -/
theorem cast_align {low q : Int} (h : low ≤ q) (m : Nat) :
    ((m * twoTo (q - low).toNat : Nat) * 2 ^ low : ℚ) = m * 2 ^ q := by
  rw [Nat.cast_mul, cast_twoTo (by omega), mul_assoc, ← zpow_add₀ two_ne_zero, sub_add_cancel]

/-- **Numbers without a sign are compared as they are.** -/
theorem le_iff_atMost {x y : Binary64} (hx : AtMost x x) (hy : AtMost y y) : le x y ↔ AtMost x y := by
  cases hx with
  | @finite m _ q =>
    cases hy with
    | @finite n _ r =>
      have hcompare : m * twoTo (q - min q r).toNat ≤ n * twoTo (r - min q r).toNat ↔
          (m * 2 ^ q : ℚ) ≤ n * 2 ^ r := by
        rw [← cast_align (min_le_left q r), ← cast_align (min_le_right q r),
          mul_le_mul_iff_left₀ (by positivity), Nat.cast_le]
      have hle : le (.finite false m q) (.finite false n r) ↔
          m * twoTo (q - min q r).toNat ≤ n * twoTo (r - min q r).toNat := by
        simp only [le, compare?, signed, Bool.false_eq_true, if_false]
        generalize m * twoTo (q - min q r).toNat = a
        generalize n * twoTo (r - min q r).toNat = b
        simp [le_iff_lt_or_eq, compare_lt_iff_lt]
      rw [hle, hcompare]
      exact ⟨.finite, fun h => by cases h; assumption⟩
    | infinite => simp [le, compare?, AtMost.below]
  | infinite =>
    cases hy with
    | finite => simp [le, compare?]; nofun
    | infinite => simp [le, compare?, AtMost.infinite]

/-! ### Rounded ratios -/

/-- A significand that has become one too long, carried into the exponent. -/
def carried (m : Nat) (q : Int) : Nat × Int :=
  if m = significandBound then (leastFull, q + 1) else (m, q)

theorem carried_spec {m : Nat} {q : Int} (hbound : m ≤ significandBound)
    (hfull : leastExponent < q → leastFull ≤ m) :
    ((carried m q).1 * 2 ^ (carried m q).2 : ℚ) = m * 2 ^ q ∧ (carried m q).1 < significandBound ∧
    (leastExponent < (carried m q).2 → leastFull ≤ (carried m q).1) := by
  rw [carried]
  split_ifs with h
  · refine ⟨?_, (by decide : leastFull < significandBound), fun _ => le_rfl⟩
    rw [h, significandBound_mul, leastFull_mul]
    congr 1
    ring
  · exact ⟨rfl, by omega, hfull⟩

theorem ofRatio_eq (negative : Bool) (hnum : 0 < num) (den : Nat) :
    ofRatio negative num den =
      if greatestExponent < (carried (gridSteps num den) (gridExponent num den)).2 then .infinite negative
      else .finite negative (carried (gridSteps num den) (gridExponent num den)).1
        (carried (gridSteps num den) (gridExponent num den)).2 := by
  rw [ofRatio, if_neg hnum.ne']
  rfl

/-- A ratio is rounded to a number of that size, or to an infinity from `2 ^ 1024` on. -/
theorem ofRatio_cases (negative : Bool) (hnum : 0 < num) (hden : 0 < den) :
    (∃ m q, ofRatio negative num den = .finite negative m q ∧ (m * 2 ^ q : ℚ) = rounded num den ∧
      m < significandBound ∧ q ≤ greatestExponent) ∨
    ofRatio negative num den = .infinite negative ∧ (2 : ℚ) ^ (1024 : Int) ≤ rounded num den := by
  obtain ⟨hvalue, hbound, hfull⟩ :=
    carried_spec (gridSteps_le hnum hden) (leastFull_le_gridSteps hnum hden)
  rw [ofRatio_eq negative hnum, rounded, ← hvalue]
  generalize carried (gridSteps num den) (gridExponent num den) = p at *
  split_ifs with hgreat
  · refine .inr ⟨rfl, ?_⟩
    have hfull : leastFull ≤ p.1 := hfull ((by decide : leastExponent < greatestExponent).trans hgreat)
    have hexponent : 52 + (greatestExponent + 1) = 1024 := rfl
    calc (2 : ℚ) ^ (1024 : Int) = leastFull * 2 ^ (greatestExponent + 1) := by rw [leastFull_mul, hexponent]
      _ ≤ p.1 * 2 ^ p.2 := by
        have hpower : (2 : ℚ) ^ (greatestExponent + 1) ≤ 2 ^ p.2 := zpow_le_zpow_right₀ one_le_two hgreat
        gcongr
  · exact .inl ⟨p.1, p.2, rfl, rfl, hbound, by omega⟩

/-- A finite number is less than every one that is rounded to an infinity. -/
theorem magnitude_lt {m : Nat} {q : Int} (hm : m < significandBound) (hq : q ≤ greatestExponent) :
    (m * 2 ^ q : ℚ) < 2 ^ (1024 : Int) := by
  calc (m * 2 ^ q : ℚ) < significandBound * 2 ^ q := by gcongr
    _ = 2 ^ (53 + q) := significandBound_mul q
    _ ≤ 2 ^ (1024 : Int) := by
      refine zpow_le_zpow_right₀ one_le_two ?_
      simp only [greatestExponent] at hq
      omega

theorem zero_atMost {x : Binary64} (hx : AtMost x x) : AtMost (zero false) x := by
  cases hx with
  | finite =>
    refine .finite ?_
    rw [Nat.cast_zero, zero_mul]
    positivity
  | infinite => exact .below _ _

/-- A rounded ratio has no sign. -/
theorem ofRatio_self (num : Nat) (hden : 0 < den) : AtMost (ofRatio false num den) (ofRatio false num den) := by
  rcases Nat.eq_zero_or_pos num with rfl | hnum
  · exact .finite le_rfl
  · rcases ofRatio_cases false hnum hden with ⟨m, q, hnumber, -⟩ | ⟨hnumber, -⟩
    · rw [hnumber]
      exact .finite le_rfl
    · rw [hnumber]
      exact .infinite

/-- **Of two ratios the greater one is rounded to the greater number.** -/
theorem ofRatio_atMost (hden : 0 < den) (hden' : 0 < den') (h : (num / den : ℚ) ≤ num' / den') :
    AtMost (ofRatio false num den) (ofRatio false num' den') := by
  rcases Nat.eq_zero_or_pos num with rfl | hnum
  · exact zero_atMost (ofRatio_self _ hden')
  have hnum' : 0 < num' := by
    have hdenq : (0 : ℚ) < den := by exact_mod_cast hden
    have hnumq : (0 : ℚ) < num := by exact_mod_cast hnum
    rcases Nat.eq_zero_or_pos num' with rfl | hnum'
    · rw [Nat.cast_zero, zero_div] at h
      exact absurd h (by positivity : (0 : ℚ) < num / den).not_ge
    · exact hnum'
  have hrounded := rounded_le hnum hden hnum' hden' h
  rcases ofRatio_cases false hnum' hden' with ⟨n, r, hnumber', hvalue', hbound, hexponent⟩ | ⟨hnumber', -⟩
  · rcases ofRatio_cases false hnum hden with ⟨m, q, hnumber, hvalue, -⟩ | ⟨-, hgreat⟩
    · rw [hnumber, hnumber']
      exact .finite (hvalue.le.trans (hrounded.trans hvalue'.ge))
    · exact absurd (hvalue' ▸ hgreat.trans hrounded) (magnitude_lt hbound hexponent).not_ge
  · rw [hnumber']
    exact (ofRatio_self num hden).top

/-- The significand of a rounded ratio is below the bound. -/
theorem lt_of_ofRatio {negative : Bool} {m : Nat} {q : Int} (hden : 0 < den)
    (h : ofRatio false num den = .finite negative m q) : m < significandBound := by
  rcases Nat.eq_zero_or_pos num with rfl | hnum
  · obtain ⟨-, rfl, -⟩ := Binary64.finite.inj h
    decide
  · rcases ofRatio_cases false hnum hden with ⟨n, r, hnumber, -, hbound, -⟩ | ⟨hnumber, -⟩
    · obtain ⟨-, rfl, -⟩ := Binary64.finite.inj (hnumber.symm.trans h)
      exact hbound
    · exact absurd (hnumber.symm.trans h) nofun

theorem ofScaled_atMost {m n : Nat} {q r : Int} (h : (m * 2 ^ q : ℚ) ≤ n * 2 ^ r) :
    AtMost (ofScaled false m q) (ofScaled false n r) :=
  ofRatio_atMost (ratio_pos m q) (ratio_pos n r) ((cast_ratio m q).trans_le (h.trans_eq (cast_ratio n r).symm))

theorem ofNat_atMost {n n' : Nat} (h : n ≤ n') : AtMost (ofNat n) (ofNat n') :=
  ofRatio_atMost Nat.one_pos Nat.one_pos (by gcongr)

/-! ### Arithmetic -/

/-- A number above zero, and not infinite. -/
def Positive : Binary64 → Prop
  | .finite false m _ => 0 < m
  | _ => False

instance : DecidablePred Positive := fun x => by
  cases x with
  | finite negative m q => cases negative <;> unfold Positive <;> infer_instance
  | infinite | nan => unfold Positive; infer_instance

variable {x x' y : Binary64}

theorem Positive.exists_finite (hy : Positive y) : ∃ n r, y = .finite false n r ∧ 0 < n := by
  unfold Positive at hy
  split at hy
  · exact ⟨_, _, rfl, hy⟩
  · exact hy.elim

/-- What is at most a positive number is finite. -/
theorem AtMost.finite_of_positive (h : AtMost x y) (hy : Positive y) : ∃ m q, x = .finite false m q := by
  obtain ⟨n, r, rfl, -⟩ := hy.exists_finite
  exact h.exists_finite

/-- **Products keep the order.** -/
theorem mul_atMost (h : AtMost x x') (hy : Positive y) : AtMost (x * y) (x' * y) := by
  obtain ⟨n, r, rfl, hn⟩ := hy.exists_finite
  have hfinite (m : Nat) (q : Int) :
      (.finite false m q : Binary64) * .finite false n r = ofScaled false (m * n) (q + r) := rfl
  have hinfinite : (.infinite false : Binary64) * .finite false n r = .infinite false := if_neg hn.ne'
  have hvalue (m : Nat) (q : Int) : ((m * n : Nat) * 2 ^ (q + r) : ℚ) = m * 2 ^ q * (n * 2 ^ r) := by
    rw [Nat.cast_mul, zpow_add₀ two_ne_zero, mul_mul_mul_comm]
  cases h with
  | finite h =>
    rw [hfinite, hfinite]
    refine ofScaled_atMost ?_
    rw [hvalue, hvalue]
    gcongr
  | below =>
    rw [hfinite, hinfinite]
    exact (ofScaled_atMost le_rfl).top
  | infinite =>
    rw [hinfinite]
    exact .infinite

/-- A finite number divided by a positive one is a rounded ratio. -/
theorem finite_div {m n : Nat} {q r : Int} (hn : 0 < n) :
    (.finite false m q : Binary64) / .finite false n r =
      ofRatio false (m * twoTo (q - r).toNat) (n * twoTo (r - q).toNat) := if_neg hn.ne'

/-- **Quotients keep the order.** -/
theorem div_atMost (h : AtMost x x') (hy : Positive y) : AtMost (x / y) (x' / y) := by
  obtain ⟨n, r, rfl, hn⟩ := hy.exists_finite
  have hinfinite : (.infinite false : Binary64) / .finite false n r = .infinite false := rfl
  have hpos (q : Int) : 0 < n * twoTo (r - q).toNat := Nat.mul_pos hn (twoTo_pos _)
  have hvalue (m : Nat) (q : Int) :
      ((m * twoTo (q - r).toNat : Nat) / (n * twoTo (r - q).toNat : Nat) : ℚ) = m * 2 ^ q / (n * 2 ^ r) := by
    have hpower := powerOfTwo_eq (q - r)
    rw [zpow_sub₀ two_ne_zero] at hpower
    simp only [powerOfTwo, neg_sub] at hpower
    rw [Nat.cast_mul, Nat.cast_mul, mul_div_mul_comm, hpower, mul_div_mul_comm]
  cases h with
  | finite h =>
    rw [finite_div hn, finite_div hn]
    refine ofRatio_atMost (hpos _) (hpos _) ?_
    rw [hvalue, hvalue]
    gcongr
  | below =>
    rw [finite_div hn, hinfinite]
    exact (ofRatio_self _ (hpos _)).top
  | infinite =>
    rw [hinfinite]
    exact .infinite

/-- The significand of a quotient is below the bound. -/
theorem lt_of_div {negative : Bool} {m : Nat} {q : Int} (hx : AtMost x x) (hy : Positive y)
    (h : x / y = .finite negative m q) : m < significandBound := by
  obtain ⟨n, r, rfl, hn⟩ := hy.exists_finite
  cases hx with
  | finite =>
    rw [finite_div hn] at h
    exact lt_of_ofRatio (Nat.mul_pos hn (twoTo_pos _)) h
  | infinite => exact absurd h nofun

/-! ### Remainders -/

/-- How often the second number goes into the first one. -/
def timesInto : Binary64 → Binary64 → Nat
  | .finite _ m q, .finite _ n r =>
    (m * twoTo (q - min q r).toNat) / (n * twoTo (r - min q r).toNat)
  | _, _ => 0

/-- What is left of the first number, as a number of steps of the finer of the two grids. -/
def leftSteps (m n : Nat) (q r : Int) : Nat :=
  (m * twoTo (q - min q r).toNat) % (n * twoTo (r - min q r).toNat)

theorem rem_finite {m n : Nat} {q r : Int} (hn : 0 < n) :
    rem (.finite false m q) (.finite false n r) = ofScaled false (leftSteps m n q r) (min q r) :=
  if_neg hn.ne'

/-- **A remainder** is what is left of the first number. -/
theorem leftSteps_eq (m n : Nat) (q r : Int) :
    (leftSteps m n q r * 2 ^ min q r : ℚ) =
      m * 2 ^ q - timesInto (.finite false m q) (.finite false n r) * (n * 2 ^ r) := by
  rw [← cast_align (min_le_left q r), ← cast_align (min_le_right q r)]
  simp only [leftSteps, timesInto]
  generalize m * twoTo (q - min q r).toNat = a
  generalize n * twoTo (r - min q r).toNat = b
  have hdiv : (b * (a / b : Nat) + (a % b : Nat) : ℚ) = a := by exact_mod_cast Nat.div_add_mod a b
  rw [← hdiv]
  ring

theorem timesInto_eq (m n : Nat) (q r : Int) :
    timesInto (.finite false m q) (.finite false n r) = ⌊(m * 2 ^ q / (n * 2 ^ r) : ℚ)⌋₊ := by
  rw [← cast_align (min_le_left q r), ← cast_align (min_le_right q r),
    mul_div_mul_right _ _ (zpow_ne_zero _ two_ne_zero), Nat.floor_div_eq_div]
  rfl

theorem timesInto_le (h : AtMost x x') (hfinite : ∃ m q, x' = .finite false m q) (hy : Positive y) :
    timesInto x y ≤ timesInto x' y := by
  obtain ⟨n, r, rfl, -⟩ := hy.exists_finite
  obtain ⟨m', q', rfl⟩ := hfinite
  cases h with
  | finite h =>
    rw [timesInto_eq, timesInto_eq]
    gcongr

/-- **Remainders keep the order** of numbers that the divisor goes into equally often. -/
theorem rem_atMost (h : AtMost x x') (hfinite : ∃ m q, x' = .finite false m q) (hy : Positive y)
    (htimes : timesInto x y = timesInto x' y) : AtMost (rem x y) (rem x' y) := by
  obtain ⟨n, r, rfl, hn⟩ := hy.exists_finite
  obtain ⟨m', q', rfl⟩ := hfinite
  obtain ⟨m, q, rfl⟩ := h.exists_finite
  rw [rem_finite hn, rem_finite hn]
  refine ofScaled_atMost ?_
  rw [leftSteps_eq, leftSteps_eq, htimes]
  cases h with
  | finite h => linarith

/-- A remainder is less than the divisor. -/
theorem rem_atMost_divisor {m n : Nat} {q r : Int} (hn : 0 < n) :
    AtMost (rem (.finite false m q) (.finite false n r)) (ofScaled false n r) := by
  rw [rem_finite hn]
  refine ofScaled_atMost ?_
  rw [← cast_align (min_le_right q r)]
  have hsteps : leftSteps m n q r ≤ n * twoTo (r - min q r).toNat :=
    (Nat.mod_lt _ (Nat.mul_pos hn (twoTo_pos _))).le
  gcongr

/-- A number on the divisor's grid leaves less than the divisor by a step of it. -/
theorem rem_atMost_pred {m n : Nat} {q r : Int} (hn : 0 < n) (hgrid : r ≤ q) :
    AtMost (rem (.finite false m q) (.finite false n r)) (ofScaled false (n - 1) r) := by
  have hmin : min q r = r := min_eq_right hgrid
  have hsteps : leftSteps m n q r ≤ n - 1 := by
    rw [leftSteps, hmin, sub_self]
    exact Nat.le_sub_one_of_lt (by simpa [twoTo] using Nat.mod_lt _ hn)
  rw [rem_finite hn, hmin]
  refine ofScaled_atMost ?_
  gcongr

/-- A number that is at least one with a full significand is on its grid. -/
theorem AtMost.exponent_le {m n : Nat} {q r : Int} (h : AtMost (.finite false n r) (.finite false m q))
    (hn : leastFull ≤ n) (hm : m < significandBound) : r ≤ q := by
  cases h with
  | finite h =>
    have hpower : (2 : ℚ) ^ (52 + r) < 2 ^ (53 + q) := by
      calc (2 : ℚ) ^ (52 + r) = leastFull * 2 ^ r := (leastFull_mul r).symm
        _ ≤ n * 2 ^ r := by gcongr
        _ ≤ m * 2 ^ q := h
        _ < significandBound * 2 ^ q := by gcongr
        _ = 2 ^ (53 + q) := significandBound_mul q
    have hexponent := (zpow_lt_zpow_iff_right₀ (one_lt_two : (1 : ℚ) < 2)).mp hpower
    omega

/-! ### Whole numbers out of a number -/

/-- **The whole part keeps the order.** -/
theorem truncateTo_le (bound : Nat) (h : AtMost x x') : truncateTo bound x ≤ truncateTo bound x' := by
  cases h with
  | @finite m n q r h =>
    have hfloor (m : Nat) (q : Int) : (ratio m q).1 / (ratio m q).2 = ⌊(m * 2 ^ q : ℚ)⌋₊ := by
      rw [← cast_ratio, Nat.floor_div_eq_div]
    have hwhole : (ratio m q).1 / (ratio m q).2 ≤ (ratio n r).1 / (ratio n r).2 := by
      rw [hfloor, hfloor]
      gcongr
    exact min_le_min_right bound hwhole
  | below => exact min_le_right _ _
  | infinite => exact le_rfl

/-- A finite number in units of its last place of some, rounded to a whole number of them. -/
def inPlaces (places : Nat) : Binary64 → Nat
  | .finite _ m q => roundHalfEven ((ratio m q).1 * tenTo places) (ratio m q).2
  | _ => 0

/-- **So do the digits of some places.** -/
theorem inPlaces_le (places : Nat) (h : AtMost x x') (hfinite : ∃ m q, x' = .finite false m q) :
    inPlaces places x ≤ inPlaces places x' := by
  obtain ⟨m', q', rfl⟩ := hfinite
  cases h with
  | finite h =>
    refine roundHalfEven_le (ratio_pos _ _) (ratio_pos _ _) ?_
    rw [Nat.cast_mul, Nat.cast_mul, mul_div_right_comm, mul_div_right_comm, cast_ratio, cast_ratio]
    gcongr

/-- A finite number without a sign is written with the digits of its places. -/
theorem fixed_finite (places m : Nat) (q : Int) :
    fixed places (.finite false m q) = withPoint places (inPlaces places (.finite false m q)) :=
  String.empty_append

end ProfileBrowser.Binary64
