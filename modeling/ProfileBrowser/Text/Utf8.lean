/-!
# UTF-8

The bytes of a text and the text of bytes. Reading tells how many bytes were well formed when it
meets one that is not.
-/

namespace ProfileBrowser.Text

/-- The bytes of a list of characters. -/
def utf8 (cs : List Char) : List UInt8 := cs.flatMap String.utf8EncodeChar

/-- The payload of a continuation byte, if it lies in the given range. -/
def tailBits (low high : Nat) (b : UInt8) : Option Nat :=
  if low ≤ b.toNat ∧ b.toNat ≤ high then some (b.toNat - 0x80) else none

/-- Puts a character in front of what is read after it. -/
def readOn (c : Nat) (rest : Except Nat (List Char)) : Except Nat (List Char) :=
  rest.map (Char.ofNat c :: ·)

/-- Reads bytes of which `valid` have been read already; an error is the number of well-formed bytes
in front of the fault. -/
def readUtf8From (valid : Nat) : List UInt8 → Except Nat (List Char)
  | [] => .ok []
  | a :: r =>
    let n := a.toNat
    if n < 0x80 then readOn n (readUtf8From (valid + 1) r)
    else if 0xC2 ≤ n ∧ n ≤ 0xDF then
      match r with
      | b :: r =>
        match tailBits 0x80 0xBF b with
        | some y => readOn ((n - 0xC0) * 0x40 + y) (readUtf8From (valid + 2) r)
        | none => .error valid
      | _ => .error valid
    else if 0xE0 ≤ n ∧ n ≤ 0xEF then
      match r with
      | b :: c :: r =>
        match tailBits (if n = 0xE0 then 0xA0 else 0x80) (if n = 0xED then 0x9F else 0xBF) b,
            tailBits 0x80 0xBF c with
        | some y, some z =>
          readOn ((n - 0xE0) * 0x1000 + y * 0x40 + z) (readUtf8From (valid + 3) r)
        | _, _ => .error valid
      | _ => .error valid
    else if 0xF0 ≤ n ∧ n ≤ 0xF4 then
      match r with
      | b :: c :: d :: r =>
        match tailBits (if n = 0xF0 then 0x90 else 0x80) (if n = 0xF4 then 0x8F else 0xBF) b,
            tailBits 0x80 0xBF c, tailBits 0x80 0xBF d with
        | some y, some z, some w =>
          readOn ((n - 0xF0) * 0x40000 + y * 0x1000 + z * 0x40 + w) (readUtf8From (valid + 4) r)
        | _, _, _ => .error valid
      | _ => .error valid
    else .error valid

/-- Reads bytes as a text; an error is the number of well-formed bytes in front of the fault. -/
def readUtf8 (bytes : List UInt8) : Except Nat (List Char) := readUtf8From 0 bytes

end ProfileBrowser.Text
