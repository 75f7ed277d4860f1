import ProfileBrowser.Profile.Amount
import ProfileBrowser.Proofs.Literal
import ProfileBrowser.Proofs.Rounding
import ProfileBrowser.Proofs.WindowLabel
/-!
# Times as they are shown

The numbers of a time that is shown are read back from its text (`readTime?`). The unit is chosen by the time
and the number is rounded afterwards, without a carry into the next unit. So within half of the last place
below a unit the number reaches it: `1000µs`, `1000ms`, `60.00s` and `1m60.00s` are shown, and at all other times
every number stays inside its unit (`numbers_in_unit_iff`). Minutes behind hours are cut off and stay inside
always.

Everything from the nanoseconds to a number that is shown keeps the order, so where a number reaches a bound
can be told from the last time before it does and the first one after that (`iff_lt_of_monotone`). Those of
the seconds behind minutes are told for each number of minutes alone, because a remainder keeps the order only
there.
-/

namespace ProfileBrowser.Amount

open Binary64

/-! ### Reading a time -/

/-- What is shown of a time. -/
inductive TimeReading where
  | hours (hours minutes : Nat)
  | minutes (minutes hundredths : Nat)
  | seconds (hundredths : Nat)
  | millis (count : Nat)
  | micros (count : Nat)
deriving DecidableEq, Repr

namespace TimeReading

/-- Hundredths as a number with two places. -/
def placesText (hundredths : Nat) : List Char :=
  Nat.toDigits 10 (hundredths / 100) ++ ['.', (hundredths / 10 % 10).digitChar, (hundredths % 10).digitChar]

/-- The text of a time. -/
def text : TimeReading → List Char
  | hours h m => Nat.toDigits 10 h ++ 'h' :: (Nat.toDigits 10 m ++ ['m'])
  | minutes m c => Nat.toDigits 10 m ++ 'm' :: (placesText c ++ ['s'])
  | seconds c => placesText c ++ ['s']
  | millis k => Nat.toDigits 10 k ++ ['m', 's']
  | micros k => Nat.toDigits 10 k ++ ['µ', 's']

/-- Whether every number stays inside its unit. -/
def InUnit : TimeReading → Prop
  | hours _ m => m < 60
  | minutes m c => m < 60 ∧ c < 6000
  | seconds c => c < 6000
  | millis k => k < 1000
  | micros k => k < 1000

instance : DecidablePred InUnit := fun r => by cases r <;> unfold InUnit <;> infer_instance

end TimeReading

/-- Reads digits, and what stands behind them. -/
def readDigits? (cs : List Char) : Option (Nat × List Char) :=
  (Text.number? 10 (cs.takeWhile Char.isDigit)).map fun n => (n, cs.dropWhile Char.isDigit)

/-- Reads two places behind a point, in front of the unit of seconds. -/
def readPlaces? (whole : Nat) : List Char → Option Nat
  | ['.', tenths, hundredths, 's'] => (Text.number? 10 [tenths, hundredths]).map (whole * 100 + ·)
  | _ => none

/-- Reads what stands behind the first number of a time. -/
def readBehind? (n : Nat) : List Char → Option TimeReading
  | 'h' :: rest => do
    let (m, rest) ← readDigits? rest
    if rest = ['m'] then return .hours n m else none
  | 'm' :: rest => do
    if rest = ['s'] then return .millis n
    else
      let (whole, rest) ← readDigits? rest
      return .minutes n (← readPlaces? whole rest)
  | ['µ', 's'] => return .micros n
  | rest => return .seconds (← readPlaces? n rest)

/-- Reads a time. -/
def readTime? (cs : List Char) : Option TimeReading := do
  let (n, rest) ← readDigits? cs
  readBehind? n rest

theorem readDigits?_toDigits (n : Nat) {rest : List Char} (hrest : ∀ c ∈ rest.head?, c.isDigit = false) :
    readDigits? (Nat.toDigits 10 n ++ rest) = some (n, rest) := by
  have hdigits : ∀ c ∈ Nat.toDigits 10 n, c.isDigit = true :=
    fun c hc => Nat.isDigit_of_mem_toDigits (by decide) (by decide) hc
  rw [readDigits?, takeDigits hdigits hrest, dropDigits hdigits hrest, Text.number?_toDigits]
  rfl

theorem readDigits?_places (c : Nat) : readDigits? (TimeReading.placesText c ++ ['s']) =
    some (c / 100, ['.', (c / 10 % 10).digitChar, (c % 10).digitChar, 's']) := by
  rw [TimeReading.placesText, List.append_assoc]
  exact readDigits?_toDigits _ (by simp)

theorem readPlaces?_digits (c : Nat) :
    readPlaces? (c / 100) ['.', (c / 10 % 10).digitChar, (c % 10).digitChar, 's'] = some c := by
  have htenths := Text.digit?_digitChar (c / 10 % 10) (by omega)
  have hhundredths := Text.digit?_digitChar (c % 10) (by omega)
  simp [readPlaces?, Text.number?, htenths, hhundredths]
  omega

/-- **The text of a time is read back.** -/
theorem readTime?_text (r : TimeReading) : readTime? r.text = some r := by
  cases r with
  | hours h m =>
    have hminutes : readDigits? (Nat.toDigits 10 m ++ ['m']) = some (m, ['m']) :=
      readDigits?_toDigits m (by simp)
    rw [readTime?, TimeReading.text, readDigits?_toDigits h (by simp)]
    simp [readBehind?, hminutes]
  | minutes m c =>
    have hlong : TimeReading.placesText c ++ ['s'] ≠ ['s'] := fun h => by
      simpa [TimeReading.placesText] using congrArg List.length h
    rw [readTime?, TimeReading.text, readDigits?_toDigits m (by simp)]
    simp [readBehind?, hlong, readDigits?_places, readPlaces?_digits]
  | seconds c =>
    rw [readTime?, TimeReading.text, readDigits?_places]
    simp [readBehind?, readPlaces?_digits]
  | millis k =>
    rw [readTime?, TimeReading.text, readDigits?_toDigits k (by simp)]
    rfl
  | micros k =>
    rw [readTime?, TimeReading.text, readDigits?_toDigits k (by simp)]
    rfl

/-! ### What is shown -/

/-- Nanoseconds as seconds. -/
def secondsOf (nanos : Nat) : Binary64 := ofNat nanos / ofNat 1000000000

/-- Nanoseconds as milliseconds. -/
def millisOf (nanos : Nat) : Binary64 := secondsOf nanos * ofNat 1000

/-- Nanoseconds as microseconds. -/
def microsOf (nanos : Nat) : Binary64 := millisOf nanos * ofNat 1000

/-- Nanoseconds as hours. -/
def hoursOf (nanos : Nat) : Nat := wholePart (secondsOf nanos / ofNat 3600)

/-- Nanoseconds as minutes. -/
def minutesOf (nanos : Nat) : Nat := wholePart (secondsOf nanos / ofNat 60)

/-- What is read of nanoseconds that are shown. -/
def reading (nanos : Nat) : TimeReading :=
  if 1 ≤ hoursOf nanos then .hours (hoursOf nanos) (wholePart (rem (secondsOf nanos) (ofNat 3600) / ofNat 60))
  else if 1 ≤ minutesOf nanos then
    .minutes (minutesOf nanos) (inPlaces 2 (rem (secondsOf nanos) (ofNat 60)))
  else if le (ofNat 1000) (millisOf nanos) then .seconds (inPlaces 2 (secondsOf nanos))
  else if le (ofNat 1) (millisOf nanos) then .millis (inPlaces 0 (millisOf nanos))
  else .micros (inPlaces 0 (microsOf nanos))

variable {n n' : Nat}

theorem secondsOf_atMost (h : n ≤ n') : AtMost (secondsOf n) (secondsOf n') :=
  div_atMost (ofNat_atMost h) (by decide)

theorem millisOf_atMost (h : n ≤ n') : AtMost (millisOf n) (millisOf n') :=
  mul_atMost (secondsOf_atMost h) (by decide)

theorem microsOf_atMost (h : n ≤ n') : AtMost (microsOf n) (microsOf n') :=
  mul_atMost (millisOf_atMost h) (by decide)

theorem hoursOf_mono : Monotone hoursOf :=
  fun _ _ h => truncateTo_le _ (div_atMost (secondsOf_atMost h) (by decide))

theorem minutesOf_mono : Monotone minutesOf :=
  fun _ _ h => truncateTo_le _ (div_atMost (secondsOf_atMost h) (by decide))

theorem secondsOf_finite (h : n ≤ Word.greatest) : ∃ m q, secondsOf n = .finite false m q :=
  (secondsOf_atMost h).finite_of_positive (by decide)

theorem millisOf_finite (h : n ≤ Word.greatest) : ∃ m q, millisOf n = .finite false m q :=
  (millisOf_atMost h).finite_of_positive (by decide)

theorem microsOf_finite (h : n ≤ Word.greatest) : ∃ m q, microsOf n = .finite false m q :=
  (microsOf_atMost h).finite_of_positive (by decide)

theorem toList_withPoint_zero (k : Nat) : (withPoint 0 k).toList = Nat.toDigits 10 k := by
  simp [withPoint, tenTo]

theorem toList_withPoint_two (c : Nat) : (withPoint 2 c).toList = TimeReading.placesText c := by
  have hplaces : ∀ d < 100, (zeros (2 - (toString d).length) ++ toString d).toList =
      [(d / 10 % 10).digitChar, (d % 10).digitChar] := by decide
  have hplaces := hplaces (c % 100) (by omega)
  have htenths : c % 100 / 10 % 10 = c / 10 % 10 := by omega
  have hhundredths : c % 100 % 10 = c % 10 := by omega
  rw [htenths, hhundredths] at hplaces
  rw [withPoint, if_neg two_ne_zero, TimeReading.placesText, ← hplaces]
  simp [tenTo]

theorem sixty_eq : ofNat 60 = .finite false 8444249301319680 (-47) := by decide

/-- What is left of seconds behind minutes is finite. -/
theorem rem_sixty_finite (h : n ≤ Word.greatest) :
    ∃ m q, rem (secondsOf n) (ofNat 60) = .finite false m q := by
  obtain ⟨m, q, hseconds⟩ := secondsOf_finite h
  have hsixty : Positive (ofScaled false 8444249301319680 (-47)) := by decide
  rw [hseconds, sixty_eq]
  exact AtMost.finite_of_positive (rem_atMost_divisor (by decide)) hsixty

theorem toList_fixed_zero {x : Binary64} (h : ∃ m q, x = .finite false m q) :
    (fixed 0 x).toList = Nat.toDigits 10 (inPlaces 0 x) := by
  obtain ⟨m, q, rfl⟩ := h
  rw [fixed_finite, toList_withPoint_zero]

theorem toList_fixed_two {x : Binary64} (h : ∃ m q, x = .finite false m q) :
    (fixed 2 x).toList = TimeReading.placesText (inPlaces 2 x) := by
  obtain ⟨m, q, rfl⟩ := h
  rw [fixed_finite, toList_withPoint_two]

/-- **A time that is shown is the text of its reading.** -/
theorem toList_time (h : n ≤ Word.greatest) : (time n).toList = (reading n).text := by
  have htime : time n =
      if 1 ≤ hoursOf n then toString (hoursOf n) ++ "h" ++
        toString (wholePart (rem (secondsOf n) (ofNat 3600) / ofNat 60)) ++ "m"
      else if 1 ≤ minutesOf n then toString (minutesOf n) ++ "m" ++
        fixed 2 (rem (secondsOf n) (ofNat 60)) ++ "s"
      else if le (ofNat 1000) (millisOf n) then fixed 2 (secondsOf n) ++ "s"
      else if le (ofNat 1) (millisOf n) then fixed 0 (millisOf n) ++ "ms"
      else fixed 0 (microsOf n) ++ "µs" := rfl
  rw [htime, reading]
  split_ifs
  · simp [TimeReading.text]
  · simp [TimeReading.text, toList_fixed_two (rem_sixty_finite h)]
  · simp [TimeReading.text, toList_fixed_two (secondsOf_finite h)]
  · simp [TimeReading.text, toList_fixed_zero (millisOf_finite h)]
  · simp [TimeReading.text, toList_fixed_zero (microsOf_finite h)]

/-! ### Where a number reaches a bound -/

/-- What holds from some number on holds above the last one of which it does not. -/
theorem iff_lt_of_monotoneOn {p : Nat → Prop} {s : Set Nat} (hp : MonotoneOn p s) {last n : Nat}
    (hlast : last ∈ s) (hnext : last + 1 ∈ s) (hn : n ∈ s) (hbelow : ¬p last) (hfrom : p (last + 1)) :
    p n ↔ last < n :=
  ⟨fun h => Nat.lt_of_not_le fun hle => hbelow (hp hn hlast hle h), fun hlt => hp hnext hn hlt hfrom⟩

/-- Where a value that keeps the order reaches a bound. -/
theorem le_iff_lt_of_monotoneOn {f : Nat → Nat} {s : Set Nat} (hf : MonotoneOn f s) {bound last n : Nat}
    (hlast : last ∈ s) (hnext : last + 1 ∈ s) (hn : n ∈ s) (hbelow : f last < bound)
    (hfrom : bound ≤ f (last + 1)) : bound ≤ f n ↔ last < n :=
  iff_lt_of_monotoneOn (p := fun n => bound ≤ f n) (fun _ ha _ hb hab h => h.trans (hf ha hb hab)) hlast hnext
    hn hbelow.not_ge hfrom

/-- The times of a word of nanoseconds. -/
def words : Set Nat := Set.Iic Word.greatest

instance : DecidablePred (· ∈ words) := fun n => inferInstanceAs (Decidable (n ≤ Word.greatest))

theorem hoursOf_pos_iff (hn : n ∈ words) : 1 ≤ hoursOf n ↔ 3599999999999 < n :=
  le_iff_lt_of_monotoneOn (hoursOf_mono.monotoneOn words) (by decide) (by decide) hn (by decide)
    (by decide)

theorem minutesOf_pos_iff (hn : n ∈ words) : 1 ≤ minutesOf n ↔ 59999999999 < n :=
  le_iff_lt_of_monotoneOn (minutesOf_mono.monotoneOn words) (by decide) (by decide) hn (by decide)
    (by decide)

theorem monotone_le_millisOf (k : Nat) : Monotone fun n => (le (ofNat k) (millisOf n) : Prop) := by
  intro n n' h hn
  have hmillis := millisOf_atMost h
  have hk := ofNat_atMost (Nat.le_refl k)
  exact (le_iff_atMost hk hmillis.right).mpr (((le_iff_atMost hk hmillis.left).mp hn).trans hmillis)

theorem second_le_millisOf_iff (hn : n ∈ words) : le (ofNat 1000) (millisOf n) ↔ 999999999 < n :=
  iff_lt_of_monotoneOn ((monotone_le_millisOf 1000).monotoneOn words) (by decide) (by decide) hn
    (by decide) (by decide)

theorem milli_le_millisOf_iff (hn : n ∈ words) : le (ofNat 1) (millisOf n) ↔ 999999 < n :=
  iff_lt_of_monotoneOn ((monotone_le_millisOf 1).monotoneOn words) (by decide) (by decide) hn
    (by decide) (by decide)

theorem minutesOf_reach_iff (hn : n ∈ words) : 60 ≤ minutesOf n ↔ 3599999999999 < n :=
  le_iff_lt_of_monotoneOn (minutesOf_mono.monotoneOn words) (by decide) (by decide) hn (by decide)
    (by decide)

theorem inPlaces_monotoneOn (places : Nat) {f : Nat → Binary64}
    (hf : ∀ {n n'}, n ≤ n' → AtMost (f n) (f n'))
    (hfinite : ∀ {n}, n ≤ Word.greatest → ∃ m q, f n = .finite false m q) :
    MonotoneOn (fun n => inPlaces places (f n)) words :=
  fun _ _ _ hn' h => inPlaces_le places (hf h) (hfinite hn')

theorem micros_reach_iff (hn : n ∈ words) : 1000 ≤ inPlaces 0 (microsOf n) ↔ 999499 < n :=
  le_iff_lt_of_monotoneOn (inPlaces_monotoneOn 0 microsOf_atMost microsOf_finite) (by decide) (by decide) hn
    (by decide) (by decide)

theorem millis_reach_iff (hn : n ∈ words) : 1000 ≤ inPlaces 0 (millisOf n) ↔ 999499999 < n :=
  le_iff_lt_of_monotoneOn (inPlaces_monotoneOn 0 millisOf_atMost millisOf_finite) (by decide) (by decide) hn
    (by decide) (by decide)

theorem seconds_reach_iff (hn : n ∈ words) : 6000 ≤ inPlaces 2 (secondsOf n) ↔ 59995000000 < n :=
  le_iff_lt_of_monotoneOn (inPlaces_monotoneOn 2 secondsOf_atMost secondsOf_finite) (by decide) (by decide) hn
    (by decide) (by decide)

/-! ### Minutes and seconds -/

/-- The nanoseconds of a number of minutes and less than one more. -/
def ofMinutes (k : Nat) : Set Nat := Set.Icc (60000000000 * k) (60000000000 * k + 59999999999)

theorem mem_words_of_mem_ofMinutes {k : Nat} (hk : k < 60) (hn : n ∈ ofMinutes k) : n ∈ words := by
  simp only [ofMinutes, words, Set.mem_Icc, Set.mem_Iic, Word.greatest] at *
  omega

theorem positive_sixty : Positive (ofNat 60) := by decide

/-- **A minute goes into a time** as often as its nanoseconds say. -/
theorem timesInto_sixty {k : Nat} (hk : k < 60) (hn : n ∈ ofMinutes k) :
    timesInto (secondsOf n) (ofNat 60) = k := by
  have hends : ∀ k < 60, timesInto (secondsOf (60000000000 * k)) (ofNat 60) = k ∧
      timesInto (secondsOf (60000000000 * k + 59999999999)) (ofNat 60) = k := by decide +kernel
  obtain ⟨hfirst, hlast⟩ := hends k hk
  have hend : 60000000000 * k + 59999999999 ∈ words :=
    mem_words_of_mem_ofMinutes hk ⟨Nat.le_add_right _ _, le_rfl⟩
  have hword := mem_words_of_mem_ofMinutes hk hn
  refine Nat.le_antisymm ?_ ?_
  · exact hlast ▸ timesInto_le (secondsOf_atMost hn.2) (secondsOf_finite hend) positive_sixty
  · exact hfirst ▸ timesInto_le (secondsOf_atMost hn.1) (secondsOf_finite hword) positive_sixty

/-- Hundredths of the seconds behind minutes. -/
def hundredthsOf (nanos : Nat) : Nat := inPlaces 2 (rem (secondsOf nanos) (ofNat 60))

theorem hundredthsOf_monotoneOn {k : Nat} (hk : k < 60) : MonotoneOn hundredthsOf (ofMinutes k) := by
  intro n hn n' hn' h
  have htimes : timesInto (secondsOf n) (ofNat 60) = timesInto (secondsOf n') (ofNat 60) := by
    rw [timesInto_sixty hk hn, timesInto_sixty hk hn']
  have hword := mem_words_of_mem_ofMinutes hk hn'
  exact inPlaces_le 2 (rem_atMost (secondsOf_atMost h) (secondsOf_finite hword) positive_sixty htimes)
    (rem_sixty_finite hword)

/-- **The seconds behind minutes reach a minute** in its last five milliseconds. The first of these is a tie
that binary64 decides: with one to sixteen minutes it lies above the tie, with others below. -/
theorem hundredthsOf_reach_iff {k : Nat} (hk : k < 60) (hn : n ∈ ofMinutes k) :
    6000 ≤ hundredthsOf n ↔ 60000000000 * k + 59995000000 < n ∨
      n = 60000000000 * k + 59995000000 ∧ 1 ≤ k ∧ k ≤ 16 := by
  have hbefore : ∀ k < 60, hundredthsOf (60000000000 * k + 59994999999) < 6000 := by decide
  have htie : ∀ k < 60, 6000 ≤ hundredthsOf (60000000000 * k + 59995000000) ↔ 1 ≤ k ∧ k ≤ 16 := by
    decide
  have hafter : ∀ k < 60, 6000 ≤ hundredthsOf (60000000000 * k + 59995000001) := by decide
  have hmem (r : Nat) (hr : r ≤ 59999999999) : 60000000000 * k + r ∈ ofMinutes k :=
    ⟨Nat.le_add_right _ _, Nat.add_le_add_left hr _⟩
  by_cases habove : 1 ≤ k ∧ k ≤ 16
  · rw [le_iff_lt_of_monotoneOn (hundredthsOf_monotoneOn hk) (hmem 59994999999 (by decide))
      (hmem 59995000000 (by decide)) hn (hbefore k hk) ((htie k hk).mpr habove)]
    omega
  · rw [le_iff_lt_of_monotoneOn (hundredthsOf_monotoneOn hk) (hmem 59995000000 (by decide))
      (hmem 59995000001 (by decide)) hn (not_le.mp (mt (htie k hk).mp habove)) (hafter k hk)]
    omega

/-! ### Hours and minutes -/

theorem hour_eq : ofNat 3600 = .finite false 7916483719987200 (-41) := by decide

/-- **The minutes behind hours stay below an hour.** From an hour on, what is left of the seconds is a multiple
of the step at an hour, so less than an hour by that step, and a sixtieth of this is not rounded up to 60. -/
theorem hourMinutes_lt (hn : n ∈ words) (hhour : 3600000000000 ≤ n) :
    wholePart (rem (secondsOf n) (ofNat 3600) / ofNat 60) < 60 := by
  obtain ⟨m, q, hseconds⟩ := secondsOf_finite hn
  have hleast : AtMost (ofNat 3600) (secondsOf n) := by
    have hfirst : secondsOf 3600000000000 = ofNat 3600 := by decide
    exact hfirst ▸ secondsOf_atMost hhour
  have hbound : m < significandBound :=
    lt_of_div (ofNat_atMost (Nat.le_refl n)) (by decide : Positive (ofNat 1000000000)) hseconds
  rw [hour_eq, hseconds] at hleast
  have hgrid : -41 ≤ q := hleast.exponent_le (by decide) hbound
  have hleft : AtMost (rem (secondsOf n) (ofNat 3600)) (ofScaled false (7916483719987200 - 1) (-41)) := by
    rw [hour_eq, hseconds]
    exact rem_atMost_pred (by decide) hgrid
  have hmost : wholePart (ofScaled false (7916483719987200 - 1) (-41) / ofNat 60) < 60 := by decide
  exact (truncateTo_le _ (div_atMost hleft positive_sixty)).trans_lt hmost

/-! ### Numbers in their unit -/

/-- The nanoseconds of which a number is rounded up to the next unit: those that are half of its last place
or less below that unit. Half of a hundredth of a second below a minute is a tie, which binary64 decides: only
behind one to sixteen minutes it is rounded up. -/
def RoundsUp (n : Nat) : Prop :=
  999500 ≤ n ∧ n < 1000000 ∨ 999500000 ≤ n ∧ n < 1000000000 ∨
  n < 3600000000000 ∧ (59995000000 < n % 60000000000 ∨
    n % 60000000000 = 59995000000 ∧ 1 ≤ n / 60000000000 ∧ n / 60000000000 ≤ 16)

/-- **Numbers in their unit.** A time of any word of nanoseconds is shown so that it can be read back, and the
numbers that are read stay inside their units, minutes and seconds below 60 and the others below 1000, unless
the time is one that is rounded up to the next unit. -/
theorem numbers_in_unit_iff (n : UInt64) :
    ∃ r, readTime? (time n.toNat).toList = some r ∧ (r.InUnit ↔ ¬RoundsUp n.toNat) := by
  have hn : n.toNat ∈ words := Nat.le_of_lt_succ n.toNat_lt
  refine ⟨reading n.toNat, by rw [toList_time hn, readTime?_text], ?_⟩
  generalize n.toNat = n at hn
  rw [reading]
  simp only [hoursOf_pos_iff hn, minutesOf_pos_iff hn, second_le_millisOf_iff hn, milli_le_millisOf_iff hn]
  split_ifs with hhours hminutes hseconds hmillis
  · have hminutes := hourMinutes_lt hn hhours
    simp only [TimeReading.InUnit, RoundsUp, hminutes, true_iff]
    omega
  · have hk : n / 60000000000 < 60 := by omega
    have hmember : n ∈ ofMinutes (n / 60000000000) := by
      simp only [ofMinutes, Set.mem_Icc]
      omega
    have hreach := hundredthsOf_reach_iff hk hmember
    have hbelow := minutesOf_reach_iff hn
    simp only [hundredthsOf] at hreach
    simp only [TimeReading.InUnit, RoundsUp]
    omega
  · have hreach := seconds_reach_iff hn
    simp only [TimeReading.InUnit, RoundsUp]
    omega
  · have hreach := millis_reach_iff hn
    simp only [TimeReading.InUnit, RoundsUp]
    omega
  · have hreach := micros_reach_iff hn
    simp only [TimeReading.InUnit, RoundsUp]
    omega

/-- Two minutes less a nanosecond are shown as a minute and sixty seconds. -/
theorem sixty_seconds_shown : ¬∀ n : UInt64, ∀ r, readTime? (time n.toNat).toList = some r → r.InUnit := by
  intro h
  have hshown : readTime? (time (119999999999 : UInt64).toNat).toList = some (.minutes 1 6000) := by
    decide
  exact absurd (h _ _ hshown) (by decide)

end ProfileBrowser.Amount
