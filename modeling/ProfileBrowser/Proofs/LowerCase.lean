import Mathlib.Data.List.Infix
import Mathlib.Data.List.TakeWhile
import ProfileBrowser.Text.Case
import ProfileBrowser.Text.Search
/-!
# The lower case of a piece of a text

In the form of a text, every piece has a form of its own (`Text.lower_append`), which is as long as the
form of the piece alone (`Text.length_lowerIn`). It is that form exactly if every capital sigma ends a word
of the text where it ends a word of the piece (`Text.lowerIn_eq_lower_iff`), and it differs at most in which
small sigma stands for a capital one (`Text.plain_lowerIn`).
-/

namespace ProfileBrowser.Text

variable {cs needle before piece after before' after' : List Char}

/-! ### Searching -/

theorem occursIn_iff : occursIn needle cs = true ↔ needle <:+: cs := by
  induction cs with
  | nil => rw [occursIn, List.isEmpty_iff, List.infix_nil]
  | cons c cs ih => rw [occursIn, Bool.or_eq_true, ih, List.isPrefixOf_iff_prefix, List.infix_cons_iff]

/-! ### Characters in their places -/

/-- Whether a character between two lists ends a word. Characters that come before are given the nearest
first. -/
def endsWord (before after : List Char) : Bool := startsCased before && !startsCased after

/-- The lower-case form of a character in its place. -/
def lowerCharIn (before after : List Char) (c : Char) : List Char :=
  if c = capitalSigma then if endsWord before after then [Char.ofNat 0x3C2] else [Char.ofNat 0x3C3]
  else lowerChar c

theorem lowerAfter_cons (before : List Char) (c : Char) (rest : List Char) :
    lowerAfter before (c :: rest) = lowerCharIn before rest c ++ lowerAfter (c :: before) rest := rfl

theorem lowerCharIn_capitalSigma (before after : List Char) :
    lowerCharIn before after capitalSigma =
      if endsWord before after then [Char.ofNat 0x3C2] else [Char.ofNat 0x3C3] := if_pos rfl

theorem lowerCharIn_of_ne {c : Char} (h : c ≠ capitalSigma) (before after : List Char) :
    lowerCharIn before after c = lowerChar c := if_neg h

theorem lowerChar_ne_nil (c : Char) : lowerChar c ≠ [] := by
  rw [lowerChar]
  split_ifs
  · exact List.cons_ne_nil _ _
  · exact List.cons_ne_nil _ _
  · split <;> exact List.cons_ne_nil _ _

theorem lowerCharIn_ne_nil (before after : List Char) (c : Char) : lowerCharIn before after c ≠ [] := by
  rw [lowerCharIn]
  split_ifs
  · exact List.cons_ne_nil _ _
  · exact List.cons_ne_nil _ _
  · exact lowerChar_ne_nil c

theorem lower_eq_nil_iff : lower cs = [] ↔ cs = [] := by
  cases cs with
  | nil => exact iff_of_true rfl rfl
  | cons c cs =>
    refine iff_of_false ?_ (List.cons_ne_nil c cs)
    rw [lower, lowerAfter_cons]
    exact List.append_ne_nil_of_left_ne_nil (lowerCharIn_ne_nil [] cs c) _

/-! ### Pieces in their places -/

/-- The lower-case form of a piece of a text, in its place. -/
def lowerIn (before after : List Char) : List Char → List Char
  | [] => []
  | c :: rest => lowerCharIn before (rest ++ after) c ++ lowerIn (c :: before) after rest

theorem lowerAfter_append (before piece after : List Char) :
    lowerAfter before (piece ++ after) =
      lowerIn before after piece ++ lowerAfter (piece.reverse ++ before) after := by
  induction piece generalizing before with
  | nil => rfl
  | cons c piece ih =>
    rw [List.cons_append, lowerAfter_cons, ih, lowerIn, List.append_assoc, List.reverse_cons,
      List.append_assoc, List.singleton_append]

theorem lowerIn_nil_nil (piece : List Char) : lowerIn [] [] piece = lower piece := by
  have h := lowerAfter_append [] piece []
  rw [List.append_nil, lowerAfter, List.append_nil] at h
  exact h.symm

/-- **Every piece of a text has a form in the form of the text.** -/
theorem lower_append (before piece after : List Char) :
    lower (before ++ piece ++ after) =
      lowerIn [] (piece ++ after) before ++ lowerIn before.reverse after piece ++
        lowerAfter (piece.reverse ++ before.reverse) after := by
  rw [lower, List.append_assoc, lowerAfter_append, lowerAfter_append, List.append_nil, List.append_assoc]

theorem length_lowerCharIn (before after before' after' : List Char) (c : Char) :
    (lowerCharIn before after c).length = (lowerCharIn before' after' c).length := by
  by_cases hc : c = capitalSigma
  · subst hc
    rw [lowerCharIn_capitalSigma, lowerCharIn_capitalSigma, apply_ite List.length, apply_ite List.length,
      List.length_singleton, List.length_singleton, ite_self, ite_self]
  · rw [lowerCharIn_of_ne hc, lowerCharIn_of_ne hc]

theorem length_lowerIn_comm (before after before' after' piece : List Char) :
    (lowerIn before after piece).length = (lowerIn before' after' piece).length := by
  induction piece generalizing before before' with
  | nil => rfl
  | cons c piece ih =>
    rw [lowerIn, lowerIn, List.length_append, List.length_append, ih (c :: before) (c :: before'),
      length_lowerCharIn before _ before' (piece ++ after')]

/-- It is as long as the form of the piece alone. -/
theorem length_lowerIn (before after piece : List Char) :
    (lowerIn before after piece).length = (lower piece).length := by
  rw [← lowerIn_nil_nil, length_lowerIn_comm]

/-! ### Capital sigmas -/

theorem lowerCharIn_eq_iff {c : Char} :
    lowerCharIn before after c = lowerCharIn before' after' c ↔
      (c = capitalSigma → endsWord before after = endsWord before' after') := by
  by_cases hc : c = capitalSigma
  · subst hc
    have hne : [Char.ofNat 0x3C2] ≠ [Char.ofNat 0x3C3] := by decide
    rw [lowerCharIn_capitalSigma, lowerCharIn_capitalSigma]
    cases endsWord before after <;> cases endsWord before' after' <;> simp [hne, hne.symm]
  · rw [lowerCharIn_of_ne hc, lowerCharIn_of_ne hc]
    exact iff_of_true rfl fun h => absurd h hc

/-- **Forms of a piece differ where a capital sigma ends a word in one place and not in the other.** -/
theorem lowerIn_eq_iff :
    lowerIn before after piece = lowerIn before' after' piece ↔
      ∀ front rest : List Char, piece = front ++ capitalSigma :: rest →
        endsWord (front.reverse ++ before) (rest ++ after) =
          endsWord (front.reverse ++ before') (rest ++ after') := by
  induction piece generalizing before before' with
  | nil => exact iff_of_true rfl fun front rest h => absurd h.symm (by simp)
  | cons c piece ih =>
    have hlength := length_lowerCharIn before (piece ++ after) before' (piece ++ after') c
    have hsplit : lowerIn before after (c :: piece) = lowerIn before' after' (c :: piece) ↔
        lowerCharIn before (piece ++ after) c = lowerCharIn before' (piece ++ after') c ∧
          lowerIn (c :: before) after piece = lowerIn (c :: before') after' piece :=
      ⟨fun h => List.append_inj h hlength, fun h => congrArg₂ (· ++ ·) h.1 h.2⟩
    rw [hsplit, lowerCharIn_eq_iff, ih]
    constructor
    · rintro ⟨hc, hpiece⟩ front rest h
      cases front with
      | nil =>
        obtain ⟨rfl, rfl⟩ := List.cons.inj h
        exact hc rfl
      | cons d front =>
        obtain ⟨rfl, rfl⟩ := List.cons.inj h
        simpa using hpiece front rest rfl
    · intro h
      refine ⟨fun hc => h [] piece (by rw [hc]; rfl), fun front rest hpiece => ?_⟩
      simpa using h (c :: front) rest (by rw [hpiece]; rfl)

/-- Every capital sigma of a piece ends a word of the text where it ends one of the piece alone. -/
def KeepsSigmas (before piece after : List Char) : Prop :=
  ∀ front rest : List Char, piece = front ++ capitalSigma :: rest →
    endsWord (front.reverse ++ before.reverse) (rest ++ after) = endsWord front.reverse rest

/-- **A piece keeps its form exactly if it keeps its sigmas.** -/
theorem lowerIn_eq_lower_iff :
    lowerIn before.reverse after piece = lower piece ↔ KeepsSigmas before piece after := by
  rw [← lowerIn_nil_nil, lowerIn_eq_iff]
  simp only [KeepsSigmas, List.append_nil]

theorem lower_infix (h : KeepsSigmas before piece after) :
    lower piece <:+: lower (before ++ piece ++ after) := by
  rw [lower_append, lowerIn_eq_lower_iff.mpr h]
  exact List.infix_append _ _ _

/-- **In its own place the form of a piece is found** exactly if the piece keeps its sigmas. -/
theorem lower_prefix_iff :
    lower piece <+: (lower (before ++ piece ++ after)).drop (lower before).length ↔
      KeepsSigmas before piece after := by
  have hlength := length_lowerIn before.reverse after piece
  rw [lower_append, List.append_assoc, List.drop_left' (length_lowerIn _ _ _), ← lowerIn_eq_lower_iff]
  constructor
  · intro h
    have hpiece := List.prefix_of_prefix_length_le h (List.prefix_append _ _) hlength.ge
    exact (hpiece.eq_of_length hlength.symm).symm
  · intro h
    rw [h]
    exact List.prefix_append _ _

/-- What comes behind a character that is not case-ignorable does not matter. -/
theorem startsCased_append (h : ∃ c ∈ cs, caseIgnorable.hold c.toNat = false) (ds : List Char) :
    startsCased (cs ++ ds) = startsCased cs := by
  have hne : cs.dropWhile (caseIgnorable.hold ·.toNat) ≠ [] := by
    obtain ⟨c, hc, hhold⟩ := h
    rw [Ne, List.dropWhile_eq_nil_iff]
    intro hall
    rw [hall c hc] at hhold
    cases hhold
  rw [startsCased, startsCased, List.dropWhile_append, List.isEmpty_eq_false_iff.mpr hne]
  cases hdrop : cs.dropWhile (caseIgnorable.hold ·.toNat) with
  | nil => exact absurd hdrop hne
  | cons c rest => rfl

/-- Only near the ends of a piece does its place matter: it keeps a capital sigma that has characters of the
piece on both sides which are not case-ignorable. -/
theorem keepsSigmas_of_between
    (h : ∀ front rest : List Char, piece = front ++ capitalSigma :: rest →
      (∃ c ∈ front, caseIgnorable.hold c.toNat = false) ∧ ∃ c ∈ rest, caseIgnorable.hold c.toNat = false)
    (before after : List Char) : KeepsSigmas before piece after := by
  intro front rest hpiece
  obtain ⟨⟨c, hc, hhold⟩, hrest⟩ := h front rest hpiece
  rw [endsWord, endsWord, startsCased_append ⟨c, List.mem_reverse.mpr hc, hhold⟩, startsCased_append hrest]

/-! ### Small sigmas -/

/-- A form in which the small sigmas are not told apart. -/
def plain (cs : List Char) : List Char :=
  cs.map fun c => if c = Char.ofNat 0x3C2 then Char.ofNat 0x3C3 else c

theorem plain_append (cs ds : List Char) : plain (cs ++ ds) = plain cs ++ plain ds := List.map_append

/-- **All that the place of a piece decides is which small sigma stands for a capital one.** -/
theorem plain_lowerIn (before after before' after' piece : List Char) :
    plain (lowerIn before after piece) = plain (lowerIn before' after' piece) := by
  induction piece generalizing before before' with
  | nil => rfl
  | cons c piece ih =>
    rw [lowerIn, lowerIn, plain_append, plain_append, ih (c :: before) (c :: before')]
    congr 1
    by_cases hc : c = capitalSigma
    · subst hc
      rw [lowerCharIn_capitalSigma, lowerCharIn_capitalSigma]
      split_ifs <;> rfl
    · rw [lowerCharIn_of_ne hc, lowerCharIn_of_ne hc]

theorem plain_lower_infix (before piece after : List Char) :
    plain (lower piece) <:+: plain (lower (before ++ piece ++ after)) := by
  rw [lower_append, plain_append, plain_append, ← lowerIn_nil_nil piece,
    plain_lowerIn [] [] before.reverse after]
  exact List.infix_append _ _ _

end ProfileBrowser.Text
