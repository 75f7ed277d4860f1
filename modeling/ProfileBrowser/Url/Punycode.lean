/-!
# Punycode

The ASCII form of a label of a domain that has other characters: the ASCII ones in front, and then
where the others go, in the ascending order of their codes. Each place is a distance from the last
one in digits of a base whose thresholds adapt to the distances so far.
-/

namespace ProfileBrowser.Url.Punycode

/-- The digit with a value below 36. -/
def digit (n : Nat) : Char := Char.ofNat (if n < 26 then 97 + n else 22 + n)

/-- The threshold of the digit at a position, counted in steps of 36 from 36 on. -/
def threshold (position bias : Nat) : Nat := min (max (position - bias) 1) 26

/-- A distance in digits, at most `fuel` of them. -/
def distance (bias : Nat) : Nat → Nat → Nat → List Char
  | 0, _, _ => []
  | fuel + 1, position, n =>
    let t := threshold position bias
    if n < t then [digit n]
    else digit (t + (n - t) % (36 - t)) :: distance bias fuel (position + 36) ((n - t) / (36 - t))

/-- Divides by 35 until at most 455 is left, over at most `fuel` times; the bias that follows. -/
def settleBias : Nat → Nat → Nat → Nat
  | 0, k, _ => k
  | fuel + 1, k, n => if 455 < n then settleBias fuel (k + 36) (n / 35) else k + 36 * n / (n + 38)

/-- The bias after a distance, given how many characters are placed with this one. -/
def adapt (first : Bool) (placed n : Nat) : Nat :=
  let n := if first then n / 700 else n / 2
  let n := n + n / placed
  settleBias n 0 n

/-! ### Encoding -/

/-- What has been written of a label. -/
structure State where
  /-- How many characters are placed. -/
  placed : Nat
  bias : Nat := 72
  /-- The distance from the last place. -/
  delta : Nat := 0
  /-- The digits, the last first. -/
  written : List Char := []

/-- Goes over one character of the label while the characters with a code are placed. -/
def State.pass (basic code : Nat) (s : State) (c : Char) : State :=
  if c.toNat < code then { s with delta := s.delta + 1 }
  else if c.toNat = code then
    let digits := distance s.bias (s.delta + 1) 36 s.delta
    { placed := s.placed + 1, bias := adapt (s.placed = basic) (s.placed + 1) s.delta,
      written := digits.reverse ++ s.written }
  else s

/-- Places the characters with the given codes, which are ascending; `code` is the least that is not
placed. -/
def place (cs : List Char) (basic : Nat) : List Nat → Nat → State → State
  | [], _, s => s
  | next :: rest, code, s =>
    let s := { s with delta := s.delta + (next - code) * (s.placed + 1) }
    let s := cs.foldl (State.pass basic next) s
    place cs basic rest (next + 1) { s with delta := s.delta + 1 }

/-- The ASCII form of a label, without the mark in front of it. -/
def encode (cs : List Char) : List Char :=
  let basic := cs.filter (·.toNat < 0x80)
  let codes := (((cs.filter (0x80 ≤ ·.toNat)).map Char.toNat).mergeSort).eraseDups
  let s := place cs basic.length codes 0x80 { placed := basic.length }
  (if basic.isEmpty then [] else basic ++ ['-']) ++ s.written.reverse

/-! ### Decoding -/

/-- The value of a digit. -/
def digitValue? (c : Char) : Option Nat :=
  if c.isLower then some (c.toNat - 97) else if c.isDigit then some (c.toNat - 22) else none

/-- The greatest distance that is read, a word of 32 bits. -/
def farthest : Nat := 4294967295

/-- Reads a distance from the digit at a position on, which counts with a weight: the sum of the
distance and `sum`, and what follows its last digit. -/
def readDistance (bias position weight sum : Nat) : List Char → Option (Nat × List Char)
  | [] => none
  | c :: rest =>
    match digitValue? c with
    | none => none
    | some n =>
      let sum := sum + n * weight
      let t := threshold position bias
      if farthest < sum then none
      else if n < t then some (sum, rest)
      else if farthest < weight * (36 - t) then none
      else readDistance bias (position + 36) (weight * (36 - t)) sum rest

theorem readDistance_length {bias position weight sum : Nat} {cs : List Char} {r : Nat × List Char}
    (h : readDistance bias position weight sum cs = some r) : r.2.length < cs.length := by
  fun_induction readDistance bias position weight sum cs with
  | case1 => simp at h
  | case2 => simp at h
  | case3 => simp at h
  | case4 => simp at h; subst h; simp
  | case5 => simp at h
  | case6 _ _ _ _ _ _ _ _ _ _ _ _ ih => have := ih h; simp; omega

/-- Places the characters whose distances are given among those of `placed`. The last one is of the
given code, and the next one goes to `place` or after it, or has a greater code. -/
def decodeAfter (bias code place : Nat) (placed cs : List Char) : Option (List Char) :=
  if cs.isEmpty then some placed
  else
    match _h : readDistance bias 36 1 place cs with
    | none => none
    | some (sum, rest) =>
      let count := placed.length + 1
      let code := code + sum / count
      if code.isValidChar then
        decodeAfter (adapt (place = 0) count (sum - place)) code (sum % count + 1)
          (placed.insertIdx (sum % count) (Char.ofNat code)) rest
      else none
termination_by cs.length
decreasing_by exact readDistance_length _h

/-- The label whose ASCII form is given, without the mark in front of it. The ASCII characters stand
before the last hyphen, unless that is the first character. -/
def decode? (cs : List Char) : Option (List Char) :=
  let digits := (cs.reverse.takeWhile (· ≠ '-')).reverse
  let basic := cs.take (cs.length - digits.length - 1)
  decodeAfter 72 0x80 0 basic (if basic.isEmpty then cs else digits)

end ProfileBrowser.Url.Punycode
