import ProfileBrowser.Binary64.Literal
import ProfileBrowser.Text.Blank
/-!
# Decimal literals

A decimal literal as its parts (`Binary64.Literal`): a sign, digits, a point with digits behind it and an
exponent, of which only some digits must be there. Each literal is read, as the number of its digits scaled by
its exponent and rounded once (`ofLiteral?_text`). The words for what is not a finite number are no literals.
-/

namespace ProfileBrowser.Binary64

/-! ### The parts of a literal -/

/-- A sign as it is written: none, or a minus if it is negative. -/
def signText : Option Bool → List Char
  | none => []
  | some negative => if negative then ['-'] else ['+']

/-- Whether a written sign is a minus. -/
def isMinus (sign : Option Bool) : Bool := sign = some true

/-- The exponent of a literal. -/
structure ExponentPart where
  mark : Char
  sign : Option Bool
  digits : List Char
  isMark : mark = 'e' ∨ mark = 'E'
  isDigits : ∀ c ∈ digits, c.isDigit = true
  nonempty : digits ≠ []

/-- The text of an exponent. -/
def ExponentPart.text (e : ExponentPart) : List Char := e.mark :: signText e.sign ++ e.digits

/-- The exponent. -/
def ExponentPart.value (e : ExponentPart) : Int :=
  if isMinus e.sign then -(digitsValue e.digits : Int) else digitsValue e.digits

/-- A decimal literal. -/
structure Literal where
  sign : Option Bool
  whole : List Char
  /-- The digits behind the point, if there is a point. -/
  fraction : Option (List Char)
  exponent : Option ExponentPart
  isWhole : ∀ c ∈ whole, c.isDigit = true
  isFraction : ∀ c ∈ fraction.getD [], c.isDigit = true
  nonempty : whole ++ fraction.getD [] ≠ []

namespace Literal

/-- The text of a literal without its sign. -/
def unsignedText (l : Literal) : List Char :=
  l.whole ++ ((l.fraction.elim [] ('.' :: ·)) ++ l.exponent.elim [] ExponentPart.text)

/-- The text of a literal. -/
def text (l : Literal) : List Char := signText l.sign ++ l.unsignedText

/-- The number nearest to what a literal says. -/
def value (l : Literal) : Binary64 :=
  ofDecimal (isMinus l.sign) (digitsValue (l.whole ++ l.fraction.getD []))
    (l.exponent.elim 0 ExponentPart.value - (l.fraction.getD []).length)

end Literal

/-! ### Reading the parts -/

variable {cs rest : List Char}

theorem takeDigits (hcs : ∀ c ∈ cs, c.isDigit = true) (hrest : ∀ c ∈ rest.head?, c.isDigit = false) :
    (cs ++ rest).takeWhile Char.isDigit = cs := by
  rw [List.takeWhile_append_of_pos hcs]
  cases rest with
  | nil => rw [List.takeWhile_nil, List.append_nil]
  | cons c rest => rw [List.takeWhile_cons, hrest c rfl, if_neg Bool.false_ne_true, List.append_nil]

theorem dropDigits (hcs : ∀ c ∈ cs, c.isDigit = true) (hrest : ∀ c ∈ rest.head?, c.isDigit = false) :
    (cs ++ rest).dropWhile Char.isDigit = rest := by
  rw [List.dropWhile_append_of_pos hcs, Text.dropWhile_of_head hrest]

/-- A digit or the point. -/
def isNumeral (c : Char) : Bool := c.isDigit || c = '.'

theorem isNumeral_of_isDigit {c : Char} (h : c.isDigit = true) : isNumeral c = true := by
  rw [isNumeral, h, Bool.true_or]

theorem ne_of_isDigit {c d : Char} (hc : c.isDigit = true) (hd : d.isDigit = false) : c ≠ d := by
  rintro rfl
  exact absurd hc (ne_true_of_eq_false hd)

/-- **An exponent is read.** -/
theorem exponentPart?_text (e : ExponentPart) : exponentPart? e.text = some e.value := by
  obtain ⟨mark, sign, digits, hmark, hdigits, hnonempty⟩ := e
  have hmark' : ¬ (mark ≠ 'e' ∧ mark ≠ 'E') := by grind
  have hall : digits.all Char.isDigit = true := List.all_eq_true.mpr hdigits
  have hempty : digits.isEmpty = false := by simpa using hnonempty
  rcases sign with _ | _ | _
  · -- without a sign the first digit must not be taken for one
    obtain ⟨d, ds, rfl⟩ := List.exists_cons_of_ne_nil hnonempty
    have hd := hdigits d List.mem_cons_self
    have hminus : d ≠ '-' := ne_of_isDigit hd rfl
    have hplus : d ≠ '+' := ne_of_isDigit hd rfl
    simp [exponentPart?, ExponentPart.text, ExponentPart.value, signText, isMinus, hmark', hminus, hplus]
    exact List.forall_mem_cons.mp hdigits
  · simp [exponentPart?, ExponentPart.text, ExponentPart.value, signText, isMinus, hmark', hall, hempty]
  · simp [exponentPart?, ExponentPart.text, ExponentPart.value, signText, isMinus, hmark', hall, hempty]

namespace Literal

variable (l : Literal)

/-- The text of a literal's exponent. -/
def exponentText : List Char := l.exponent.elim [] ExponentPart.text

theorem head?_exponentText {c : Char} (h : c ∈ l.exponentText.head?) : c = 'e' ∨ c = 'E' := by
  rw [exponentText] at h
  cases hexponent : l.exponent with
  | none => rw [hexponent] at h; cases h
  | some e =>
    rw [hexponent] at h
    obtain rfl : e.mark = c := Option.some.inj h
    exact e.isMark

theorem exponentPart?_exponentText :
    exponentPart? l.exponentText = some (l.exponent.elim 0 ExponentPart.value) := by
  rw [exponentText]
  cases l.exponent with
  | none => rfl
  | some e => exact exponentPart?_text e

theorem unsignedLiteral?_text (negative : Bool) :
    unsignedLiteral? negative l.unsignedText =
      some (ofDecimal negative (digitsValue (l.whole ++ l.fraction.getD []))
        (l.exponent.elim 0 ExponentPart.value - (l.fraction.getD []).length)) := by
  have hexponent : ∀ c ∈ l.exponentText.head?, c.isDigit = false := fun c hc => by
    rcases l.head?_exponentText hc with rfl | rfl <;> rfl
  cases hfraction : l.fraction with
  | none =>
    have hwhole : l.whole ≠ [] := by simpa [hfraction] using l.nonempty
    have htext : l.unsignedText = l.whole ++ l.exponentText := by
      simp [unsignedText, exponentText, hfraction]
    have hpoint : ∀ more, l.exponentText ≠ '.' :: more := fun more h => by
      rcases l.head?_exponentText (c := '.') (by rw [h]; rfl) with h | h <;> cases h
    rw [unsignedLiteral?, htext, takeDigits l.isWhole hexponent, dropDigits l.isWhole hexponent]
    simp [hwhole, exponentPart?_exponentText]
  | some ds =>
    have hds : ∀ c ∈ ds, c.isDigit = true := by simpa [hfraction] using l.isFraction
    have hdigits : l.whole = [] → ds ≠ [] := by simpa [hfraction] using l.nonempty
    have htext : l.unsignedText = l.whole ++ '.' :: (ds ++ l.exponentText) := by
      simp [unsignedText, exponentText, hfraction]
    have hpoint : ∀ c ∈ ('.' :: (ds ++ l.exponentText)).head?, c.isDigit = false := by
      rintro c ⟨⟩
      rfl
    rw [unsignedLiteral?, htext, takeDigits l.isWhole hpoint, dropDigits l.isWhole hpoint]
    simp [takeDigits hds hexponent, dropDigits hds hexponent, exponentPart?_exponentText]
    exact fun hwhole hnone => absurd hnone (hdigits hwhole)

/-- Without its sign a literal starts with a digit or with the point. -/
theorem exists_first : ∃ c rest, l.unsignedText = c :: rest ∧ isNumeral c = true := by
  have hnonempty := l.nonempty
  cases hwhole : l.whole with
  | cons c rest =>
    have hdigit := l.isWhole c (by rw [hwhole]; exact List.mem_cons_self)
    exact ⟨c, _, by rw [unsignedText, hwhole]; rfl, isNumeral_of_isDigit hdigit⟩
  | nil =>
    cases hfraction : l.fraction with
    | none => simp [hwhole, hfraction] at hnonempty
    | some ds => exact ⟨'.', _, by rw [unsignedText, hwhole, hfraction]; rfl, rfl⟩

/-- It ends in one of them. -/
theorem exists_last : ∃ c, l.text.getLast? = some c ∧ isNumeral c = true := by
  have hdigits : ∀ {ds : List Char}, (∀ c ∈ ds, c.isDigit = true) → ds ≠ [] →
      ∃ c, ds.getLast? = some c ∧ isNumeral c = true := by
    intro ds hall hne
    have hlast := hall _ (List.getLast_mem hne)
    exact ⟨ds.getLast hne, List.getLast?_eq_some_getLast hne, isNumeral_of_isDigit hlast⟩
  rw [text, unsignedText, List.getLast?_append, List.getLast?_append, List.getLast?_append]
  cases l.exponent with
  | some e =>
    obtain ⟨c, hc, hnumeral⟩ := hdigits e.isDigits e.nonempty
    have hlast : e.text.getLast? = some c := by
      rw [ExponentPart.text, List.getLast?_append, hc, Option.some_or]
    exact ⟨c, by simp [hlast], hnumeral⟩
  | none =>
    cases hfraction : l.fraction with
    | some ds =>
      by_cases hds : ds = []
      · exact ⟨'.', by simp [hds], rfl⟩
      · obtain ⟨c, hc, hnumeral⟩ := hdigits (by simpa [hfraction] using l.isFraction) hds
        have hlast : ('.' :: ds).getLast? = some c := by
          rw [List.getLast?_cons, hc]
          rfl
        exact ⟨c, by simp [hlast], hnumeral⟩
    | none =>
      obtain ⟨c, hc, hnumeral⟩ := hdigits l.isWhole (by simpa [hfraction] using l.nonempty)
      exact ⟨c, by simp [hc], hnumeral⟩

theorem text_ne_nil : l.text ≠ [] := by
  obtain ⟨c, hc, -⟩ := l.exists_last
  intro hnil
  rw [hnil] at hc
  cases hc

end Literal

/-- **A literal is read as its value.** -/
theorem ofLiteral?_text (l : Literal) : ofLiteral? l.text = some l.value := by
  rw [Literal.text, Literal.value]
  rcases l.sign with _ | _ | _
  · obtain ⟨c, rest, htext, hc⟩ := l.exists_first
    have hminus : c ≠ '-' := by rintro rfl; cases hc
    have hplus : c ≠ '+' := by rintro rfl; cases hc
    have hread := l.unsignedLiteral?_text false
    rw [htext] at hread
    simp [signText, isMinus, htext, ofLiteral?, hminus, hplus, hread]
  · exact l.unsignedLiteral?_text false
  · exact l.unsignedLiteral?_text true

end ProfileBrowser.Binary64
