import ProfileBrowser.Profile.Duration
import ProfileBrowser.Proofs.Literal
/-!
# Durations with a unit

A duration is a literal and a unit, with blanks between them and around. The units end in each other: `s` ends
four others. They are tried in an order in which none comes before one that it is the end of
(`units_before`), and what ends a literal is no letter, so the first unit found is the one that was written
(`splitUnit?_suffix`).
-/

namespace ProfileBrowser

namespace Duration

/-! ### Units -/

/-- A unit of time. -/
inductive TimeUnit where
  | nano
  /-- A microsecond, written with the micro sign. -/
  | microSign
  /-- A microsecond, written with the letter u. -/
  | micro
  | milli | second | minute | hour | day
deriving DecidableEq, Repr

/-- What a unit is written as. -/
def TimeUnit.suffix : TimeUnit → List Char
  | .nano => ['n', 's']
  | .microSign => ['µ', 's']
  | .micro => ['u', 's']
  | .milli => ['m', 's']
  | .second => ['s']
  | .minute => ['m']
  | .hour => ['h']
  | .day => ['d']

/-- The nanoseconds of a unit. -/
def TimeUnit.nanos : TimeUnit → Nat
  | .nano => 1
  | .microSign | .micro => 1000
  | .milli => 1000000
  | .second => 1000000000
  | .minute => 60000000000
  | .hour => 3600000000000
  | .day => 86400000000000

/-- The units in the order in which they are tried. -/
def unitOrder : List TimeUnit := [.nano, .microSign, .micro, .milli, .second, .minute, .hour, .day]

theorem units_eq : units = unitOrder.map fun u => (String.ofList u.suffix, u.nanos) := by decide

theorem mem_unitOrder (u : TimeUnit) : u ∈ unitOrder := by cases u <;> decide

/-- **No unit is tried before one that it is the end of.** -/
theorem pairwise_unitOrder :
    unitOrder.Pairwise fun early late => ¬ early.suffix <:+ late.suffix := by decide

/-- Units are letters. -/
theorem TimeUnit.letter_of_mem_suffix (u : TimeUnit) :
    ∀ c ∈ u.suffix, Binary64.isNumeral c = false ∧ Text.isBlank c = false := by
  have hletters : u.suffix.all (fun c => !Binary64.isNumeral c && !Text.isBlank c) = true := by
    cases u <;> decide
  simpa using hletters

/-! ### What is in front of a unit -/

variable {front ending cs : List Char}

theorem withoutEnding?_append (front ending : List Char) :
    withoutEnding? ending (front ++ ending) = some front := by
  rw [withoutEnding?, if_pos (List.isSuffixOf_iff_suffix.mpr (List.suffix_append _ _))]
  simp

theorem withoutEnding?_eq_none (h : ¬ ending <:+ cs) : withoutEnding? ending cs = none := by
  rw [withoutEnding?, if_neg (mt List.isSuffixOf_iff_suffix.mp h)]

theorem splitUnit?_eq (cs : List Char) : splitUnit? cs =
    unitOrder.findSome? fun u => (withoutEnding? u.suffix cs).map fun front => (front, u.nanos) := by
  rw [splitUnit?, units_eq, List.findSome?_map]
  simp [Function.comp_def]

/-- A text with an ending has another ending, not reaching beyond the first, only if that has it. -/
theorem suffix_of_suffix_append {name : List Char} (hlast : ∀ c ∈ front.getLast?, c ∉ ending)
    (h : ending <:+ front ++ name) : ending <:+ name := by
  obtain ⟨before, heq⟩ := h
  rcases List.append_eq_append_iff.mp heq with ⟨reach, rfl, rfl⟩ | ⟨rest, rfl, rfl⟩
  · rcases List.eq_nil_or_concat reach with rfl | ⟨inner, c, rfl⟩
    · exact List.suffix_rfl
    · refine absurd ?_ (hlast c (by simp))
      simp
  · exact List.suffix_append rest ending

/-- **The unit that was written is the one that is found**, if what is in front of it ends in no letter of a
unit. -/
theorem splitUnit?_suffix (u : TimeUnit) (hlast : ∀ c ∈ front.getLast?, ∀ u : TimeUnit, c ∉ u.suffix) :
    splitUnit? (front ++ u.suffix) = some (front, u.nanos) := by
  obtain ⟨early, late, horder⟩ := List.append_of_mem (mem_unitOrder u)
  have hpairwise := pairwise_unitOrder
  rw [horder, List.pairwise_append] at hpairwise
  rw [splitUnit?_eq, horder, List.findSome?_append, List.findSome?_cons, withoutEnding?_append]
  have hearly : early.findSome? (fun e => (withoutEnding? e.suffix (front ++ u.suffix)).map fun front =>
      (front, e.nanos)) = none := by
    rw [List.findSome?_eq_none_iff]
    intro e he
    rw [withoutEnding?_eq_none]
    · rfl
    · exact fun h => hpairwise.2.2 e he u List.mem_cons_self
        (suffix_of_suffix_append (fun c hc => hlast c hc e) h)
  rw [hearly]
  rfl

/-! ### Reading a duration -/

theorem not_blank_of_isNumeral {c : Char} (h : Binary64.isNumeral c = true) : Text.isBlank c = false := by
  have hcode : c.toNat = 46 ∨ 48 ≤ c.toNat ∧ c.toNat ≤ 57 := by
    rcases Bool.or_eq_true_iff.mp h with hdigit | hpoint
    · right
      simpa [Char.isDigit, UInt32.le_iff_toNat_le] using hdigit
    · left
      rw [of_decide_eq_true hpoint]
      rfl
  simp only [Text.isBlank, Text.blanks, Text.Ranges.hold]
  grind

/-- A literal starts with no blank, whatever comes behind it. -/
theorem head?_literal (l : Binary64.Literal) (tail : List Char) :
    ∀ c ∈ (l.text ++ tail).head?, Text.isBlank c = false := by
  obtain ⟨c, rest, htext, hc⟩ := l.exists_first
  rw [Binary64.Literal.text, htext]
  rcases l.sign with _ | _ | _
  · rintro _ ⟨⟩
    exact not_blank_of_isNumeral hc
  · rintro _ ⟨⟩
    decide
  · rintro _ ⟨⟩
    decide

/-- A literal with blanks behind it ends in no letter of a unit. -/
theorem getLast?_literal (l : Binary64.Literal) {between : List Char}
    (hbetween : ∀ c ∈ between, Text.isBlank c = true) :
    ∀ c ∈ (l.text ++ between).getLast?, ∀ u : TimeUnit, c ∉ u.suffix := by
  intro c hc u hmem
  obtain ⟨hnumeral, hletter⟩ := u.letter_of_mem_suffix c hmem
  obtain ⟨d, hd, hlast⟩ := l.exists_last
  rw [List.getLast?_append, hd] at hc
  cases hend : between.getLast? with
  | none =>
    rw [hend] at hc
    obtain rfl : d = c := Option.some.inj hc
    exact absurd hlast (ne_true_of_eq_false hnumeral)
  | some e =>
    rw [hend] at hc
    obtain rfl : e = c := Option.some.inj hc
    exact absurd (hbetween e (List.mem_of_getLast? hend)) (ne_true_of_eq_false hletter)

theorem trimChars_literal (l : Binary64.Literal) {between : List Char}
    (hbetween : ∀ c ∈ between, Text.isBlank c = true) : Text.trimChars (l.text ++ between) = l.text := by
  refine @Text.trimChars_padded [] _ _ nofun hbetween ?_ ?_
  · have hhead := head?_literal l []
    rwa [List.append_nil] at hhead
  · intro c hc
    obtain ⟨d, hd, hlast⟩ := l.exists_last
    obtain rfl : d = c := Option.some.inj (hd.symm.trans hc)
    exact not_blank_of_isNumeral hlast

theorem trimChars_literal_unit (l : Binary64.Literal) (u : TimeUnit) {before between after : List Char}
    (hbefore : ∀ c ∈ before, Text.isBlank c = true) (hafter : ∀ c ∈ after, Text.isBlank c = true) :
    Text.trimChars (before ++ (l.text ++ between ++ u.suffix) ++ after) = l.text ++ between ++ u.suffix := by
  refine Text.trimChars_padded hbefore hafter ?_ ?_
  · rw [List.append_assoc]
    exact head?_literal l _
  · intro c hc
    have hmem : c ∈ u.suffix := by
      rw [List.getLast?_append] at hc
      cases u <;> exact List.mem_of_getLast? hc
    exact (u.letter_of_mem_suffix c hmem).2

/-- A text is read by what it splits into. -/
theorem read_of_split {s : String} {number : List Char} {nanos : Nat} {x : Binary64}
    (hcs : Text.trimChars s.toList = cs) (hsplit : splitUnit? cs = some (front, nanos))
    (hnumber : Text.trimChars front = number) (hsome : number ≠ [])
    (hread : Binary64.ofLiteral? number = some x) :
    read s = if Binary64.lt x (Binary64.zero false) then .error (.negative (String.ofList cs))
      else .ok ⟨Binary64.truncateTo Word.greatest (x * Binary64.ofNat nanos)⟩ := by
  rw [read, hcs, hsplit]
  simp [hnumber, hsome, hread]

/-- **Units are never confused.** A literal and a unit, with blanks around and between them, are read as the
product of the literal's number and the unit's own nanoseconds, cut to a whole number and held at the greatest
word; or the number is negative, which is an error. A text that ends in no unit is rejected. -/
theorem read_literal_unit :
    (∀ (l : Binary64.Literal) (u : TimeUnit) (before between after : List Char),
      (∀ c ∈ before ++ between ++ after, Text.isBlank c = true) →
      let text := l.text ++ between ++ u.suffix
      Binary64.ofLiteral? l.text = some l.value ∧
      read (String.ofList (before ++ text ++ after)) =
        if Binary64.lt l.value (Binary64.zero false) then .error (.negative (String.ofList text))
        else .ok ⟨Binary64.truncateTo Word.greatest (l.value * Binary64.ofNat u.nanos)⟩) ∧
    ∀ s : String, (∀ u : TimeUnit, ¬ u.suffix <:+ Text.trimChars s.toList) →
      read s = .error (.unknownFormat (Text.trim s)) := by
  refine ⟨fun l u before between after hblank => ?_, fun s hnone => ?_⟩
  · intro text
    simp only [List.forall_mem_append] at hblank
    obtain ⟨⟨hbefore, hbetween⟩, hafter⟩ := hblank
    have hread := Binary64.ofLiteral?_text l
    refine ⟨hread, read_of_split ?_ ?_ (trimChars_literal l hbetween) l.text_ne_nil hread⟩
    · rw [String.toList_ofList]
      exact trimChars_literal_unit l u hbefore hafter
    · exact splitUnit?_suffix u (getLast?_literal l hbetween)
  · have hsplit : splitUnit? (Text.trimChars s.toList) = none := by
      rw [splitUnit?_eq, List.findSome?_eq_none_iff]
      intro u _
      rw [withoutEnding?_eq_none (hnone u)]
      rfl
    rw [read, hsplit]
    rfl

/-- A literal with all its parts in front of the unit that ends in another one, and a number without a unit. -/
theorem read_literal_unit_milli :
    let l : Binary64.Literal :=
      { sign := some false, whole := ['2'], fraction := some ['5']
        exponent := some ⟨'e', none, ['1'], .inl rfl, List.forall_mem_singleton.mpr rfl, by decide⟩
        isWhole := List.forall_mem_singleton.mpr rfl
        isFraction := List.forall_mem_singleton.mpr rfl
        nonempty := by decide }
    ((∀ c ∈ [' '] ++ ['\t'] ++ ['\n'], Text.isBlank c = true) ∧
      ∀ u : TimeUnit, ¬ u.suffix <:+ Text.trimChars "10 ".toList) ∧
    String.ofList ([' '] ++ (l.text ++ ['\t'] ++ TimeUnit.milli.suffix) ++ ['\n']) = " +2.5e1\tms\n" ∧
    read " +2.5e1\tms\n" = .ok ⟨25000000⟩ ∧ read "10 " = .error (.unknownFormat "10") := by
  intro l
  obtain ⟨hread, hreject⟩ := read_literal_unit
  have hblank : ∀ c ∈ [' '] ++ ['\t'] ++ ['\n'], Text.isBlank c = true :=
    List.all_eq_true.mp (by decide)
  have hnone : ∀ u : TimeUnit, ¬ u.suffix <:+ Text.trimChars "10 ".toList := by
    intro u
    cases u <;> decide
  have htext : String.ofList ([' '] ++ (l.text ++ ['\t'] ++ TimeUnit.milli.suffix) ++ ['\n']) =
      " +2.5e1\tms\n" := by decide
  have hpositive : ¬ Binary64.lt l.value (Binary64.zero false) = true := by decide +kernel
  have hnanos : Binary64.truncateTo Word.greatest (l.value * Binary64.ofNat TimeUnit.milli.nanos) =
      25000000 := by decide +kernel
  refine ⟨⟨hblank, hnone⟩, htext, ?_, hreject "10 " hnone⟩
  rw [← htext, (hread l .milli [' '] ['\t'] ['\n'] hblank).2, if_neg hpositive, hnanos]

end Duration

end ProfileBrowser
