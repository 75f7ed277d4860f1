import ProfileBrowser.Profile.Duration
import ProfileBrowser.Text.Digits
import Mathlib.Algebra.Ring.Nat
import Mathlib.Data.List.Basic
import Mathlib.Order.Bounds.Defs
/-!
# Labels of windows

The label of a window is read back by adding its parts up (`readLabel?`). That gives the seconds of the window
cut to whole minutes from a minute on, and to whole hours from a day on (`truncated`), and two windows have
the same label exactly if they are cut to the same (`label_truncates`).

A label is written by cases on three numbers, each of which may vanish. What it is made of is said apart:
the two greatest units of its size, without the one that vanishes (`labelParts`).
-/

namespace ProfileBrowser

/-! ### Numbers read back -/

namespace Text

theorem digit?_digitChar : ∀ d < 10, digit? 10 d.digitChar = some d := by decide

/-- **The decimal digits of a number are read as it.** -/
theorem number?_toDigits (n : Nat) : number? 10 (Nat.toDigits 10 n) = some n := by
  have hdigits : (Nat.toDigits 10 n).foldlM (fun n c => (digit? 10 c).map (n * 10 + ·)) 0 = some n := by
    induction n using Nat.strongRecOn with
    | ind n ih =>
      rcases Nat.lt_or_ge n 10 with hlt | hge
      · rw [Nat.toDigits_of_lt_base hlt]
        simp [digit?_digitChar n hlt]
      · rw [Nat.toDigits_of_base_le (by omega) hge, List.foldlM_append, ih (n / 10) (by omega)]
        simp [digit?_digitChar (n % 10) (by omega)]
        omega
  rw [number?, hdigits]
  simp

end Text

namespace Duration

/-! ### Parts of a label -/

/-- A unit of a label. -/
inductive LabelUnit where
  | day | hour | minute | second
deriving DecidableEq, Repr

/-- The letter of a unit. -/
def LabelUnit.letter : LabelUnit → Char
  | .day => 'd'
  | .hour => 'h'
  | .minute => 'm'
  | .second => 's'

/-- The seconds of a unit. -/
def LabelUnit.seconds : LabelUnit → Nat
  | .day => 86400
  | .hour => 3600
  | .minute => 60
  | .second => 1

/-- The unit of a letter. -/
def LabelUnit.ofLetter? : Char → Option LabelUnit
  | 'd' => some .day
  | 'h' => some .hour
  | 'm' => some .minute
  | 's' => some .second
  | _ => none

/-- A part of a label: a number of a unit. -/
structure LabelPart where
  count : Nat
  unit : LabelUnit
deriving DecidableEq, Repr

namespace LabelPart

/-- The text of a part. -/
def text (p : LabelPart) : List Char := Nat.toDigits 10 p.count ++ [p.unit.letter]

/-- The seconds that a part stands for. -/
def seconds (p : LabelPart) : Nat := p.count * p.unit.seconds

/-- Reads a part: digits and the letter of a unit. -/
def read? (cs : List Char) : Option LabelPart := do
  let unit ← cs.getLast?.bind LabelUnit.ofLetter?
  let count ← Text.number? 10 cs.dropLast
  return ⟨count, unit⟩

theorem read?_text (p : LabelPart) : read? p.text = some p := by
  obtain ⟨count, unit⟩ := p
  have hunit : LabelUnit.ofLetter? unit.letter = some unit := by cases unit <;> rfl
  simp [read?, text, Text.number?_toDigits, hunit]

theorem blank_not_mem_text (p : LabelPart) : ' ' ∉ p.text := by
  have hletter : ' ' ≠ p.unit.letter := by cases p.unit <;> decide
  intro hblank
  rcases List.mem_append.mp hblank with hdigit | hmem
  · have hdigit := Nat.isDigit_of_mem_toDigits (by decide) (by decide) hdigit
    exact absurd hdigit (by decide)
  · exact hletter (List.mem_singleton.mp hmem)

end LabelPart

/-- Reads a label: its parts, with a blank between two of them. -/
def readLabel? (cs : List Char) : Option (List LabelPart) := (cs.splitOn ' ').mapM LabelPart.read?

/-- **Parts that are written with blanks between them are read back.** -/
theorem readLabel?_intercalate {parts : List LabelPart} (h : parts ≠ []) :
    readLabel? ([' '].intercalate (parts.map LabelPart.text)) = some parts := by
  have hsplit : ([' '].intercalate (parts.map LabelPart.text)).splitOn ' ' = parts.map LabelPart.text := by
    refine List.splitOn_intercalate ' ' ?_ (by simpa using h)
    simp [LabelPart.blank_not_mem_text]
  rw [readLabel?, hsplit]
  clear h hsplit
  induction parts with
  | nil => rfl
  | cons p parts ih => simp [LabelPart.read?_text, ih]

/-! ### What a label is made of -/

/-- The seconds that a label is exact to. -/
def grain (secs : Nat) : Nat := if secs < 60 then 1 else if secs < 86400 then 60 else 3600

/-- Seconds without what a label leaves out. -/
def truncated (secs : Nat) : Nat := secs / grain secs * grain secs

/-- The parts of the label of a number of seconds. -/
def labelParts (secs : Nat) : List LabelPart :=
  if secs < 60 then [⟨secs, .second⟩]
  else if secs < 86400 then
    [⟨secs / 3600, .hour⟩, ⟨secs % 3600 / 60, .minute⟩].filter (·.count != 0)
  else [⟨secs / 86400, .day⟩, ⟨secs % 86400 / 3600, .hour⟩].filter (·.count != 0)

/-- **A label is its parts with blanks between them.** -/
theorem toList_label (d : Duration) :
    d.label.toList = [' '].intercalate ((labelParts d.seconds).map LabelPart.text) := by
  rw [label]
  generalize d.seconds = secs
  split_ifs with hdays hhours hminutes hminutes hhours
  · have hsecs : secs < 60 := by omega
    simp [labelParts, hsecs, LabelPart.text, LabelUnit.letter]
  · have hsecs : ¬ secs < 60 ∧ secs < 86400 ∧ secs / 3600 = 0 := by omega
    simp [labelParts, hsecs, hminutes, LabelPart.text, LabelUnit.letter]
  · have hsecs : ¬ secs < 60 ∧ secs < 86400 ∧ secs % 86400 = secs := by omega
    rw [hsecs.2.2] at hhours ⊢
    simp [labelParts, hsecs, hhours, hminutes, LabelPart.text, LabelUnit.letter]
  · have hsecs : ¬ secs < 60 ∧ secs < 86400 ∧ secs % 86400 = secs := by omega
    rw [hsecs.2.2] at hhours ⊢
    simp [labelParts, hsecs, hhours, hminutes, LabelPart.text, LabelUnit.letter, List.intercalate]
  · have hsecs : ¬ secs < 60 ∧ ¬ secs < 86400 := by omega
    simp [labelParts, hsecs, hdays, hhours, LabelPart.text, LabelUnit.letter]
  · have hsecs : ¬ secs < 60 ∧ ¬ secs < 86400 := by omega
    simp [labelParts, hsecs, hdays, hhours, LabelPart.text, LabelUnit.letter, List.intercalate]

theorem labelParts_ne_nil (secs : Nat) : labelParts secs ≠ [] := by
  rw [labelParts]
  split_ifs with hminute hday
  · exact List.cons_ne_nil _ _
  · by_cases hhours : secs / 3600 = 0
    · have hminutes : secs % 3600 / 60 ≠ 0 := by omega
      simp [hminutes]
    · simp [hhours]
  · have hdays : secs / 86400 ≠ 0 := by omega
    simp [hdays]

/-- Parts that are nothing add nothing. -/
theorem sum_seconds_filter (parts : List LabelPart) :
    ((parts.filter (·.count != 0)).map LabelPart.seconds).sum = (parts.map LabelPart.seconds).sum := by
  induction parts with
  | nil => rfl
  | cons p parts ih =>
    by_cases hp : p.count = 0
    · simp [hp, LabelPart.seconds, ih]
    · simp [hp, ih]

theorem sum_labelParts (secs : Nat) : ((labelParts secs).map LabelPart.seconds).sum = truncated secs := by
  rw [labelParts, truncated, grain]
  split_ifs with hminute hday
  · simp [LabelPart.seconds, LabelUnit.seconds]
  · rw [sum_seconds_filter]
    simp [LabelPart.seconds, LabelUnit.seconds]
    omega
  · rw [sum_seconds_filter]
    simp [LabelPart.seconds, LabelUnit.seconds]
    omega

/-- In a label the hours are less than a day and the minutes less than an hour; only the seconds can be
none. -/
theorem mem_labelParts {secs : Nat} {p : LabelPart} (h : p ∈ labelParts secs) :
    (p.unit = .hour → p.count < 24) ∧ (p.unit = .minute → p.count < 60) ∧ (p.count = 0 → secs = 0) := by
  rw [labelParts] at h
  split_ifs at h with hminute hday
  · obtain rfl := List.mem_singleton.mp h
    exact ⟨nofun, nofun, id⟩
  · obtain ⟨hmem, hpos⟩ := List.mem_filter.mp h
    have hcount : p.count ≠ 0 := bne_iff_ne.mp hpos
    simp only [List.mem_cons, List.not_mem_nil, or_false] at hmem
    rcases hmem with rfl | rfl
    · exact ⟨fun _ => by dsimp only; omega, nofun, fun h => absurd h hcount⟩
    · exact ⟨nofun, fun _ => by dsimp only; omega, fun h => absurd h hcount⟩
  · obtain ⟨hmem, hpos⟩ := List.mem_filter.mp h
    have hcount : p.count ≠ 0 := bne_iff_ne.mp hpos
    simp only [List.mem_cons, List.not_mem_nil, or_false] at hmem
    rcases hmem with rfl | rfl
    · exact ⟨nofun, nofun, fun h => absurd h hcount⟩
    · exact ⟨fun _ => by dsimp only; omega, nofun, fun h => absurd h hcount⟩

/-- What a label leaves out does not show in it. -/
theorem labelParts_truncated (secs : Nat) : labelParts (truncated secs) = labelParts secs := by
  rw [truncated, grain]
  split_ifs with hminute hday
  · rw [Nat.div_one, Nat.mul_one]
  · have hhours : secs / 60 * 60 / 3600 = secs / 3600 := by omega
    have hminutes : secs / 60 * 60 % 3600 / 60 = secs % 3600 / 60 := by omega
    rw [labelParts, labelParts, if_neg (by omega), if_pos (by omega), if_neg hminute, if_pos hday, hhours,
      hminutes]
  · have hdays : secs / 3600 * 3600 / 86400 = secs / 86400 := by omega
    have hhours : secs / 3600 * 3600 % 86400 / 3600 = secs % 86400 / 3600 := by omega
    rw [labelParts, labelParts, if_neg (by omega), if_neg (by omega), if_neg hminute, if_neg hday, hdays,
      hhours]

theorem isGreatest_truncated (secs : Nat) :
    IsGreatest {n | grain secs ∣ n ∧ n ≤ secs} (truncated secs) := by
  constructor
  · exact ⟨Nat.dvd_mul_left _ _, Nat.div_mul_le_self _ _⟩
  · rintro n ⟨hdvd, hle⟩
    rw [← Nat.div_mul_cancel hdvd]
    exact Nat.mul_le_mul_right _ (Nat.div_le_div_right hle)

/-! ### Reading a label -/

theorem readLabel?_label (d : Duration) : readLabel? d.label.toList = some (labelParts d.seconds) := by
  rw [toList_label, readLabel?_intercalate (labelParts_ne_nil _)]

/-- **A label is an exact truncation.** The parts of a window's label add up to the greatest multiple of its
grain that its seconds reach; hours stay below a day, minutes below an hour, and the only part that is
nothing is that of `0s`. Two windows have the same label exactly if they are cut to the same seconds. -/
theorem label_truncates (d : Duration) :
    (∃ parts, readLabel? d.label.toList = some parts ∧
      (parts.map LabelPart.seconds).sum = truncated d.seconds ∧
      IsGreatest {n | grain d.seconds ∣ n ∧ n ≤ d.seconds} (truncated d.seconds) ∧
      ∀ p ∈ parts, (p.unit = .hour → p.count < 24) ∧ (p.unit = .minute → p.count < 60) ∧
        (p.count = 0 → d.label = "0s")) ∧
    ∀ e : Duration, d.label = e.label ↔ truncated d.seconds = truncated e.seconds := by
  refine ⟨⟨_, readLabel?_label d, sum_labelParts _, isGreatest_truncated _, fun p hp => ?_⟩, fun e => ?_⟩
  · obtain ⟨hhour, hminute, hzero⟩ := mem_labelParts hp
    refine ⟨hhour, hminute, fun hcount => ?_⟩
    rw [label, hzero hcount]
    rfl
  · constructor
    · intro hlabel
      have hparts : some (labelParts d.seconds) = some (labelParts e.seconds) := by
        rw [← readLabel?_label, hlabel, readLabel?_label]
      rw [← sum_labelParts, ← sum_labelParts, Option.some.inj hparts]
    · intro htruncated
      rw [← String.toList_inj, toList_label, toList_label, ← labelParts_truncated, htruncated,
        labelParts_truncated]

end Duration

end ProfileBrowser
