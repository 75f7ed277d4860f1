import ProfileBrowser.Json.Printer
import ProfileBrowser.Json.Reader
import ProfileBrowser.Proofs.Utf8
/-!
# Reading written strings and numbers

What the machine makes of the text of a string or of an integer. A string is read with its plain bytes
held back until the next escape or the end (`Piece.Holds`), so one character after the other is taken in,
escaped or not (`string_char`). The digits of an integer are read as they are written, the first of them
first (`digits_read`); where the integer ends shows only in the byte behind it, so the machine is left
inside a number that ends at whatever may come next (`int_read`).

No lemma says which place the machine has come to: a place bears on nothing but the words of an error.
-/

namespace ProfileBrowser.Json

open Text

/-! ### Feeding -/

namespace State

variable {limit : Option Nat} {s t : State}

theorem feed_nil (limit : Option Nat) (s : State) : s.feed limit [] = .ok s := rfl

theorem feed_cons {b : UInt8} (h : s.step limit b = .ok t) (bytes : List UInt8) :
    s.feed limit (b :: bytes) = t.feed limit bytes := by
  rw [feed, h]

/-- Reading one part of a document and then the rest is reading the whole. -/
theorem feed_append {front : List UInt8} (h : s.feed limit front = .ok t) (bytes : List UInt8) :
    s.feed limit (front ++ bytes) = t.feed limit bytes := by
  induction front generalizing s with
  | nil =>
    cases h
    rfl
  | cons b front ih =>
    rw [feed] at h
    split at h
    next u hstep => rw [List.cons_append, feed_cons hstep, ih h]
    next => cases h

/-- A part of what can be read can be read, and then the rest. -/
theorem exists_feed_of_append {u : State} {front rest : List UInt8}
    (h : s.feed limit (front ++ rest) = .ok u) :
    ∃ t, s.feed limit front = .ok t ∧ t.feed limit rest = .ok u := by
  induction front generalizing s with
  | nil => exact ⟨s, rfl, h⟩
  | cons b front ih =>
    rw [List.cons_append, feed] at h
    split at h
    next r hstep =>
      obtain ⟨t, hfront, hrest⟩ := ih h
      exact ⟨t, (feed_cons hstep front).trans hfront, hrest⟩
    next => cases h

/-- A value goes to the innermost open array or object, whatever has been expected. -/
theorem deliver_of_mode (s : State) (mode : Mode) (v : Json) :
    deliver { s with mode } v = s.deliver v := by
  obtain ⟨_, stack, depth, place⟩ := s
  cases stack with
  | nil => rfl
  | cons frame outer => cases frame <;> rfl

end State

/-! ### Strings -/

/-- What a piece stands for: the characters taken in, and those whose bytes are held back. -/
def Piece.Holds (p : Piece) (cs : List Char) : Prop :=
  ∃ pending, p.raw.reverse = utf8 pending ∧ p.done.reverse ++ pending = cs

theorem Piece.holds_nil (done : List Char) (column : Nat) :
    Piece.Holds ⟨done, [], column⟩ done.reverse := ⟨[], rfl, List.append_nil _⟩

theorem Piece.Holds.close {p : Piece} {cs : List Char} (h : p.Holds cs) :
    p.close = .ok cs.reverse := by
  obtain ⟨pending, hraw, rfl⟩ := h
  rw [Piece.close, hraw, readUtf8_utf8, List.reverse_append, List.reverse_reverse]

/-- The bytes of another character are held back, too. -/
theorem Piece.Holds.hold {p : Piece} {cs : List Char} (h : p.Holds cs) (c : Char) :
    Piece.Holds { p with raw := (String.utf8EncodeChar c).reverse ++ p.raw } (cs ++ [c]) := by
  obtain ⟨pending, hraw, rfl⟩ := h
  refine ⟨pending ++ [c], ?_, (List.append_assoc _ _ _).symm⟩
  rw [List.reverse_append, List.reverse_reverse, hraw, utf8_append]
  exact congrArg _ (List.append_nil _).symm

/-- The machine inside a string. -/
def State.inString (s : State) (isKey : Bool) (p : Piece) : State :=
  { s with mode := .string isKey .plain p }

variable {limit : Option Nat} {p : Piece} {cs : List Char}

theorem plain_of_toNat {b : UInt8} (hquote : b.toNat ≠ 34) (hbackslash : b.toNat ≠ 92)
    (hcontrol : 32 ≤ b.toNat) : b ≠ 34 ∧ b ≠ 92 ∧ ¬ b < 32 := by
  refine ⟨?_, ?_, ?_⟩
  · rintro rfl
    exact hquote rfl
  · rintro rfl
    exact hbackslash rfl
  · rw [UInt8.lt_iff_toNat_lt]
    exact Nat.not_lt.mpr hcontrol

/-- Bytes that are neither a quote nor a backslash nor a control are held back. -/
theorem plain_read (isKey : Bool) (bytes : List UInt8) (hbytes : ∀ b ∈ bytes, b ≠ 34 ∧ b ≠ 92 ∧ ¬ b < 32) (s : State)
    (p : Piece) :
    ∃ place, (s.inString isKey p).feed limit bytes =
      .ok ({ s with place }.inString isKey { p with raw := bytes.reverse ++ p.raw }) := by
  induction bytes generalizing s p with
  | nil => exact ⟨s.place, rfl⟩
  | cons b bytes ih =>
    obtain ⟨hquote, hbackslash, hcontrol⟩ := hbytes b List.mem_cons_self
    have hstep : (s.inString isKey p).step limit b =
        .ok ({ s with place := s.place.after b }.inString isKey { p with raw := b :: p.raw }) := by
      simp only [State.inString, State.step, State.stringStep, if_neg hquote, if_neg hbackslash,
        if_neg hcontrol]
    obtain ⟨place, hfeed⟩ := ih (fun x hx => hbytes x (List.mem_cons_of_mem _ hx))
      { s with place := s.place.after b } { p with raw := b :: p.raw }
    refine ⟨place, ?_⟩
    rw [State.feed_cons hstep, hfeed, List.reverse_cons, List.append_assoc, List.singleton_append]

/-- At a backslash the held bytes are taken in. -/
theorem backslash_read (isKey : Bool) (hp : p.Holds cs) (s : State) :
    (s.inString isKey p).step limit 92 = .ok { s with
      mode := .string isKey .escape ⟨cs.reverse, [], (s.place.after 92).column⟩
      place := s.place.after 92 } := by
  simp only [State.inString, State.step, State.stringStep, hp.close]
  rfl

/-- Then the character of the escape is. -/
theorem Piece.holds_taken (cs : List Char) (c : Char) (column : Nat) :
    Piece.Holds ⟨c :: cs.reverse, [], column⟩ (cs ++ [c]) := by
  have hholds := Piece.holds_nil (c :: cs.reverse) column
  rwa [List.reverse_cons, List.reverse_reverse] at hholds

/-- A letter after a backslash stands for its character. -/
theorem escape_read (isKey : Bool) (hp : p.Holds cs) {b : UInt8} {c : Char}
    (hc : escapeChar b = some c) (hb : b ≠ 117) (s : State) :
    ∃ q place, (s.inString isKey p).feed limit [92, b] = .ok ({ s with place }.inString isKey q) ∧
      q.Holds (cs ++ [c]) := by
  refine ⟨_, (s.place.after 92).after b, ?_,
    Piece.holds_taken cs c ((s.place.after 92).after b).column⟩
  rw [State.feed_cons (backslash_read isKey hp s)]
  simp only [State.feed, State.step, State.stringStep, if_neg hb, hc, State.inString]

/-- A code has four digits. -/
theorem eq_of_codeValue {digits : List UInt8} {n : Nat} (h : codeValue digits = some n) :
    ∃ d c b a, digits = [d, c, b, a] := by
  unfold codeValue at h
  split at h
  · exact ⟨_, _, _, _, rfl⟩
  · cases h

/-- A code of four digits stands for its character. -/
theorem code_read (isKey : Bool) (hp : p.Holds cs) {digits : List UInt8} {n : Nat}
    (hcode : codeValue digits.reverse = some n) (hn : n < 0xD800) (s : State) :
    ∃ q place, (s.inString isKey p).feed limit (92 :: 117 :: digits) =
      .ok ({ s with place }.inString isKey q) ∧ q.Holds (cs ++ [Char.ofNat n]) := by
  obtain ⟨w, z, y, x, hdigits⟩ := eq_of_codeValue hcode
  obtain rfl : digits = [x, y, z, w] := List.reverse_injective hdigits
  obtain ⟨place, hplace⟩ : ∃ place, place = [92, 117, x, y, z, w].foldl Position.after s.place :=
    ⟨_, rfl⟩
  refine ⟨_, place, ?_, Piece.holds_taken cs (Char.ofNat n) place.column⟩
  rw [State.feed_cons (backslash_read isKey hp s), hplace]
  have hlow : ¬ (0xDC00 ≤ n ∧ n ≤ 0xDFFF) := by omega
  have hhigh : ¬ (0xD800 ≤ n ∧ n ≤ 0xDBFF) := by omega
  simp [State.feed, State.step, State.stringStep, hdigits ▸ hcode, if_neg hlow, if_neg hhigh,
    State.inString]

/-- The four digits of a control are those of its code. -/
theorem codeValue_fourHex : ∀ n < 32, codeValue (utf8 (fourHex n)).reverse = some n := by
  decide +kernel

/-- **A character of a string is read as it is written**, escaped or not. -/
theorem string_char (isKey : Bool) (hp : p.Holds cs) (c : Char) (s : State) :
    ∃ q place, (s.inString isKey p).feed limit (utf8 (escaped c)) =
      .ok ({ s with place }.inString isKey q) ∧ q.Holds (cs ++ [c]) := by
  have hsame : Char.ofNat c.toNat = c := Char.ofNat_toNat c
  rw [escaped]
  split_ifs with hquote hbackslash hbackspace hfeed hline hreturn htab hcontrol
  · obtain rfl := hquote
    exact escape_read isKey hp (b := 34) rfl (by decide) s
  · obtain rfl := hbackslash
    exact escape_read isKey hp (b := 92) rfl (by decide) s
  · exact hsame ▸ hbackspace ▸ escape_read isKey hp (b := 98) rfl (by decide) s
  · exact hsame ▸ hfeed ▸ escape_read isKey hp (b := 102) rfl (by decide) s
  · exact hline ▸ escape_read isKey hp (b := 110) rfl (by decide) s
  · exact hreturn ▸ escape_read isKey hp (b := 114) rfl (by decide) s
  · exact htab ▸ escape_read isKey hp (b := 116) rfl (by decide) s
  · have hread := @code_read limit p cs isKey hp _ _ (codeValue_fourHex c.toNat hcontrol) (by omega) s
    rw [hsame] at hread
    exact hread
  · have hplain : ∀ b ∈ String.utf8EncodeChar c, b ≠ 34 ∧ b ≠ 92 ∧ ¬ b < 32 := by
      intro b hb
      have hbyte := byte_of_encode hb
      have hq : c.toNat ≠ 34 := fun h => hquote (Char.toNat_inj.mp h)
      have hs : c.toNat ≠ 92 := fun h => hbackslash (Char.toNat_inj.mp h)
      exact plain_of_toNat (by omega) (by omega) (by omega)
    obtain ⟨place, hread⟩ := plain_read isKey _ hplain s p
    refine ⟨_, place, ?_, hp.hold c⟩
    rw [utf8_cons]
    exact (List.append_nil (String.utf8EncodeChar c)).symm ▸ hread

/-- So is the whole string, up to its quote. -/
theorem string_chars (isKey : Bool) (hp : p.Holds cs) (text : List Char) (s : State) :
    ∃ q place, (s.inString isKey p).feed limit (utf8 (text.flatMap escaped)) =
      .ok ({ s with place }.inString isKey q) ∧ q.Holds (cs ++ text) := by
  induction text generalizing s p cs with
  | nil => exact ⟨p, s.place, rfl, by rwa [List.append_nil]⟩
  | cons c text ih =>
    obtain ⟨q, place, hfirst, hq⟩ := string_char isKey hp c s
    obtain ⟨r, last, hrest, hr⟩ := ih hq { s with place }
    refine ⟨r, last, ?_, by rwa [List.append_assoc, List.singleton_append] at hr⟩
    rw [List.flatMap_cons, utf8_append, State.feed_append hfirst, hrest]

theorem utf8_stringText (text : String) :
    utf8 (stringText text) = 34 :: (utf8 (text.toList.flatMap escaped) ++ [34]) := by
  rw [stringText, utf8_append, utf8_cons]
  rfl

/-- **A written string is read as its text**, a key or a value. -/
theorem quoted_read (isKey : Bool) {s : State}
    (hopen : s.step limit 34 = .ok (s.openString isKey (s.place.after 34))) (text : String) :
    ∃ place, s.feed limit (utf8 (stringText text)) =
      .ok (if isKey then { s with mode := .colon text, place }
        else { s with place }.deliver (.str text)) := by
  obtain ⟨q, place, hread, hq⟩ := string_chars isKey (Piece.holds_nil [] _) text.toList
    { s with place := s.place.after 34 }
  refine ⟨place.after 34, ?_⟩
  rw [utf8_stringText, State.feed_cons hopen]
  refine (State.feed_append hread _).trans (State.feed_cons ?_ [])
  simp only [State.inString, State.step, State.stringStep, hq.close, ↓reduceIte, List.reverse_nil,
    List.nil_append, List.reverse_reverse, String.ofList_toList]
  split_ifs
  · rfl
  · exact congrArg Except.ok (State.deliver_of_mode { s with place := place.after 34 } _ _)

/-! ### Numbers -/

/-- The byte of a decimal digit. -/
def digitByte (d : Nat) : UInt8 := UInt8.ofNat (48 + d)

theorem utf8_digitChar : ∀ d < 10, utf8 [d.digitChar] = [digitByte d] := by decide

theorem isDigit_digitByte : ∀ d < 10, isDigit (digitByte d) = true := by decide

theorem digitValue_digitByte : ∀ d < 10, digitValue (digitByte d) = d := by decide

/-- A number that has got a digit goes on with the next one, while it fits into a word. -/
theorem digit_read {n d : Nat} (hd : d < 10) (hfits : 10 * n + d ≤ Word.greatest) (negative : Bool)
    (s : State) :
    { s with mode := .number negative (.whole n) }.step limit (digitByte d) =
      .ok { s with
        mode := .number negative (.whole (10 * n + d))
        place := s.place.after (digitByte d) } := by
  have hstep : Numeral.step (digitByte d) (.whole n) = .goesOn (.whole (10 * n + d)) := by
    rw [Numeral.step, if_pos (isDigit_digitByte d hd), digitValue_digitByte d hd, Nat.mul_comm n]
    exact if_pos hfits
  simp only [State.step, hstep]

/-- **The digits of a number are read as it**, if the first of them starts one. -/
theorem digits_read {negative : Bool} {s : State}
    (hfirst : ∀ d, 1 ≤ d → d < 10 → s.step limit (digitByte d) =
      .ok { s with mode := .number negative (.whole d), place := s.place.after (digitByte d) })
    {n : Nat} (hpos : 1 ≤ n) (hfits : n ≤ Word.greatest) :
    ∃ place, s.feed limit (utf8 (Nat.toDigits 10 n)) =
      .ok { s with mode := .number negative (.whole n), place } := by
  induction n using Nat.strong_induction_on with
  | h n ih =>
    rcases Nat.lt_or_ge n 10 with hlt | hge
    · rw [Nat.toDigits_of_lt_base hlt, utf8_digitChar n hlt]
      exact ⟨_, State.feed_cons (hfirst n hpos hlt) []⟩
    · have hlast : n % 10 < 10 := Nat.mod_lt _ (by omega)
      obtain ⟨place, hread⟩ := ih (n / 10) (by omega) (by omega) (by omega)
      have hdigit := @digit_read limit (n / 10) _ hlast (by omega) negative { s with place }
      rw [Nat.div_add_mod] at hdigit
      refine ⟨place.after (digitByte (n % 10)), ?_⟩
      rw [Nat.toDigits_of_base_le (by omega) hge, utf8_append, State.feed_append hread,
        utf8_digitChar _ hlast]
      exact State.feed_cons hdigit []

/-- The bytes that may come right behind a value inside an array or an object. -/
def Closes (b : UInt8) : Prop := b = 44 ∨ b = 93 ∨ b = 125

theorem whole_ends {n : Nat} {b : UInt8} (h : Closes b) : Numeral.step b (.whole n) = .ends := by
  rcases h with rfl | rfl | rfl <;> rfl

theorem zero_ends {b : UInt8} (h : Closes b) : Numeral.step b .zero = .ends := by
  rcases h with rfl | rfl | rfl <;> rfl

/-- A value that has been read, but for the end of a number: that shows in the byte behind it. -/
inductive Reads (s : State) (v : Json) : State → Prop where
  | whole (place : Position) : Reads s v ({ s with place }.deliver v)
  | number {place : Position} {negative : Bool} {n : Numeral} (hvalue : n.value negative = .ok v)
      (hends : ∀ b, Closes b → n.step b = .ends) :
    Reads s v { s with mode := .number negative n, place }

/-- A state in which a value is expected. -/
def State.Awaits (s : State) : Prop := s.mode = .value ∨ s.mode = .firstItem ∨ s.mode = .nextItem

/-- What is no blank and does not end an array begins the value. -/
theorem State.Awaits.step {s : State} (h : s.Awaits) {b : UInt8} (hspace : isSpace b = false)
    (hend : b ≠ 93) : s.step limit b = s.beginValue limit b := by
  rcases h with h | h | h <;> simp only [State.step, h, hspace, if_neg hend, Bool.false_eq_true, ↓reduceIte]

/-- A digit but zero begins a number. -/
theorem State.Awaits.step_digit {s : State} (h : s.Awaits) {d : Nat} (hpos : 1 ≤ d) (hd : d < 10) :
    s.step limit (digitByte d) =
      .ok { s with mode := .number false (.whole d), place := s.place.after (digitByte d) } := by
  have hbyte : ∀ d < 10, 1 ≤ d → isSpace (digitByte d) = false ∧ digitByte d ≠ 93 ∧
      digitByte d ≠ 110 ∧ digitByte d ≠ 116 ∧ digitByte d ≠ 102 ∧ digitByte d ≠ 45 ∧
      digitByte d ≠ 48 := by decide
  obtain ⟨hspace, hend, hn, ht, hf, hminus, hzero⟩ := hbyte d hd hpos
  rw [h.step hspace hend]
  simp only [State.beginValue, if_neg hn, if_neg ht, if_neg hf, if_neg hminus, if_neg hzero,
    isDigit_digitByte d hd, digitValue_digitByte d hd, ↓reduceIte]

/-- So does one behind a minus. -/
theorem step_digit_sign {s : State} {d : Nat} (hpos : 1 ≤ d) (hd : d < 10) :
    { s with mode := .number true .sign }.step limit (digitByte d) =
      .ok { s with mode := .number true (.whole d), place := s.place.after (digitByte d) } := by
  have hzero : ∀ d < 10, 1 ≤ d → digitByte d ≠ 48 := by decide
  simp only [State.step, Numeral.step, if_neg (hzero d hd hpos), isDigit_digitByte d hd,
    digitValue_digitByte d hd, ↓reduceIte]

theorem intText_natCast (n : Nat) : intText n = Nat.toDigits 10 n := Nat.toList_repr

theorem intText_neg {n : Nat} (hpos : 1 ≤ n) : intText (-n) = '-' :: Nat.toDigits 10 n := by
  obtain ⟨m, rfl⟩ : ∃ m, n = m + 1 := ⟨n - 1, by omega⟩
  have htext : intText (-(m + 1 : Nat)) = ("-" ++ (m + 1).repr).toList := rfl
  rw [htext, String.toList_append, Nat.toList_repr]
  rfl

/-- **A written integer is read as it**, where a value is expected. -/
theorem int_read {s : State} (h : s.Awaits) {i : Int} (hi : fits i) :
    ∃ t, s.feed limit (utf8 (intText i)) = .ok t ∧ Reads s (.int i) t := by
  obtain ⟨hlow, hhigh⟩ := hi
  rcases Int.lt_trichotomy i 0 with hneg | rfl | hpos
  · obtain ⟨n, rfl⟩ : ∃ n : Nat, i = -n := ⟨i.natAbs, by omega⟩
    have hfits : n ≤ Word.greatest ∧ ¬ (n = 0 ∨ Word.signedCount < n) := by
      rw [Word.greatest]
      rw [Word.signedCount] at hlow ⊢
      omega
    have hsign : s.step limit 45 = .ok { s with mode := .number true .sign, place := s.place.after 45 } :=
      (h.step rfl (by decide)).trans rfl
    obtain ⟨place, hread⟩ := digits_read
      (s := { s with mode := .number true .sign, place := s.place.after 45 })
      (fun d => step_digit_sign (s := { s with place := s.place.after 45 })) (n := n) (by omega) hfits.1
    refine ⟨{ s with mode := .number true (.whole n), place }, ?_, .number ?_ fun b => whole_ends⟩
    · rw [intText_neg (by omega), utf8_cons]
      exact (State.feed_cons hsign _).trans hread
    · rw [Numeral.value, wholeOf, if_pos rfl, if_neg hfits.2]
  · refine ⟨{ s with mode := .number false .zero, place := s.place.after 48 }, ?_,
      .number rfl fun b => zero_ends⟩
    have hzero : s.step limit 48 = .ok { s with mode := .number false .zero, place := s.place.after 48 } :=
      (h.step rfl (by decide)).trans rfl
    exact State.feed_cons hzero []
  · obtain ⟨n, rfl⟩ : ∃ n : Nat, i = n := ⟨i.toNat, by omega⟩
    have hfits : n ≤ Word.greatest := by
      rw [Word.count] at hhigh
      rw [Word.greatest]
      omega
    obtain ⟨place, hread⟩ := digits_read (fun d => h.step_digit) (n := n) (by omega) hfits
    refine ⟨{ s with mode := .number false (.whole n), place }, ?_, .number rfl fun b => whole_ends⟩
    rw [intText_natCast, hread]

end ProfileBrowser.Json
