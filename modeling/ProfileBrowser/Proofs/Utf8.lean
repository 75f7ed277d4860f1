import Mathlib.Data.String.Basic
import ProfileBrowser.Text.Utf8
/-!
# Reading what was encoded

Every list of characters is read back from its bytes. The reader tells the length of a character by its
first byte, and each length has its own range of codes, so the cases of both sides are those of the code
(`readUtf8From_encode`). The bytes of a character beyond ASCII are all beyond ASCII, and so none of them
is taken for a quote, a backslash or a control (`byte_of_encode`).
-/

namespace ProfileBrowser.Text

/-- The bytes of two texts are one after the other. -/
theorem utf8_append (cs ds : List Char) : utf8 (cs ++ ds) = utf8 cs ++ utf8 ds := List.flatMap_append

theorem utf8_cons (c : Char) (cs : List Char) : utf8 (c :: cs) = String.utf8EncodeChar c ++ utf8 cs := rfl

theorem toNat_ofNat {n : Nat} (h : n < 256) : (UInt8.ofNat n).toNat = n := UInt8.toNat_ofNat_of_lt' h

/-- A continuation byte gives back what was put into it. -/
theorem tailBits_ofNat {low high n : Nat} (hlow : low ≤ n + 128) (hhigh : n + 128 ≤ high)
    (hbyte : high < 256) : tailBits low high (UInt8.ofNat (n + 128)) = some n := by
  rw [tailBits, toNat_ofNat (by omega), if_pos ⟨hlow, hhigh⟩]
  simp

theorem readOn_code (c : Char) {n : Nat} (h : n = c.toNat) (rest : Except Nat (List Char)) :
    readOn n rest = rest.map (c :: ·) := by
  rw [readOn, h, Char.ofNat_toNat]

/-- The codes of characters leave out those of surrogates. -/
theorem code_lt (c : Char) : c.toNat < 0xD800 ∨ 0xDFFF < c.toNat ∧ c.toNat < 0x110000 := c.valid

/-- **The bytes of a character are read as it**, with whatever stands behind them. -/
theorem readUtf8From_encode (valid : Nat) (c : Char) (bytes : List UInt8) :
    ∃ next, readUtf8From valid (String.utf8EncodeChar c ++ bytes) =
      (readUtf8From next bytes).map (c :: ·) := by
  have hcode := code_lt c
  have hval : c.val.toNat = c.toNat := rfl
  rw [String.utf8EncodeChar, hval]
  split_ifs with h1 h2 h3
  · refine ⟨valid + 1, ?_⟩
    rw [List.singleton_append, readUtf8From.eq_def]
    dsimp only
    rw [toNat_ofNat (by omega), if_pos (by omega), readOn_code c rfl]
  · refine ⟨valid + 2, ?_⟩
    rw [List.cons_append, List.singleton_append, readUtf8From.eq_def]
    dsimp only
    rw [toNat_ofNat (by omega), if_neg (by omega), if_pos (by omega),
      tailBits_ofNat (by omega) (by omega) (by omega)]
    exact readOn_code c (by omega) _
  · refine ⟨valid + 3, ?_⟩
    rw [List.cons_append, List.cons_append, List.singleton_append, readUtf8From.eq_def]
    dsimp only
    rw [toNat_ofNat (by omega), if_neg (by omega), if_neg (by omega), if_pos (by omega),
      tailBits_ofNat (by split_ifs <;> omega) (by split_ifs <;> omega) (by split_ifs <;> omega),
      tailBits_ofNat (by omega) (by omega) (by omega)]
    exact readOn_code c (by omega) _
  · refine ⟨valid + 4, ?_⟩
    rw [List.cons_append, List.cons_append, List.cons_append, List.singleton_append, readUtf8From.eq_def]
    dsimp only
    rw [toNat_ofNat (by omega), if_neg (by omega), if_neg (by omega), if_neg (by omega),
      if_pos (by omega), tailBits_ofNat (by split_ifs <;> omega) (by split_ifs <;> omega) (by split_ifs <;> omega),
      tailBits_ofNat (by omega) (by omega) (by omega),
      tailBits_ofNat (by omega) (by omega) (by omega)]
    exact readOn_code c (by omega) _

/-- **What was encoded is read back.** -/
theorem readUtf8From_utf8 (valid : Nat) (cs : List Char) : readUtf8From valid (utf8 cs) = .ok cs := by
  induction cs generalizing valid with
  | nil => rfl
  | cons c cs ih =>
    obtain ⟨next, hread⟩ := readUtf8From_encode valid c (utf8 cs)
    rw [utf8_cons, hread, ih next]
    rfl

theorem readUtf8_utf8 (cs : List Char) : readUtf8 (utf8 cs) = .ok cs := readUtf8From_utf8 0 cs

/-- A byte of a character is its code, or beyond ASCII like it. -/
theorem byte_of_encode {c : Char} {b : UInt8} (h : b ∈ String.utf8EncodeChar c) :
    b.toNat = c.toNat ∨ 128 ≤ b.toNat := by
  have hcode := code_lt c
  have hval : c.val.toNat = c.toNat := rfl
  rw [String.utf8EncodeChar, hval] at h
  split_ifs at h with h1 h2 h3
  · obtain rfl := List.mem_singleton.mp h
    exact .inl (toNat_ofNat (by omega))
  all_goals
    simp only [List.mem_cons, List.not_mem_nil, or_false] at h
    right
    rcases h with rfl | rfl | rfl | rfl <;> rw [toNat_ofNat (by omega)] <;> omega

end ProfileBrowser.Text
