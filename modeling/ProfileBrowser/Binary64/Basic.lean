import ProfileBrowser.Word
/-!
# Binary64 numbers

The double-precision numbers of IEEE 754 as a sign, a whole significand and a power of two. Every
operation computes the exact result over whole numbers and then rounds it once, to the nearest
number and on a tie to the even significand (`ofRatio`), so a statement about an operation is a
statement about ratios of whole numbers. Signalling, the other rounding directions and the payload
of a NaN are not modelled.
-/

namespace ProfileBrowser

/-- A binary64 number. -/
inductive Binary64 where
  /-- `±m · 2^q`. The operations keep it canonical: `m < 2^53`, `-1074 ≤ q ≤ 971`, and `2^52 ≤ m`
  unless `q = -1074`. -/
  | finite (negative : Bool) (m : Nat) (q : Int)
  | infinite (negative : Bool)
  | nan
deriving DecidableEq, Repr, Inhabited

namespace Binary64

/-! ### Rounding -/

/-- The whole number nearest to `num / den`; a tie goes to the even one. -/
def roundHalfEven (num den : Nat) : Nat :=
  let whole := num / den
  let rest := num % den
  if 2 * rest < den then whole
  else if den < 2 * rest then whole + 1
  else if whole % 2 = 0 then whole
  else whole + 1

/-- The whole number nearest to `num / den`; a tie goes up. -/
def roundHalfUp (num den : Nat) : Nat := (2 * num + den) / (2 * den)

/-- `2^n`. -/
def twoTo (n : Nat) : Nat := Nat.pow 2 n

/-- `10^n`. -/
def tenTo (n : Nat) : Nat := Nat.pow 10 n

/-- `2^q` as a ratio, numerator first. -/
def powerOfTwo (q : Int) : Nat × Nat := (twoTo q.toNat, twoTo (-q).toNat)

/-- The greatest `e` with `2^e ≤ num / den`, for a positive ratio. -/
def floorLog2 (num den : Nat) : Int :=
  let e : Int := (Nat.log2 num : Int) - (Nat.log2 den : Int)
  let (a, b) := powerOfTwo e
  if den * a ≤ num * b then e else e - 1

/-- The least significand of a number that is not too small for a full one, `2^52`. -/
def leastFull : Nat := 4503599627370496

/-- What every significand is below, `2^53`. -/
def significandBound : Nat := 9007199254740992

/-- The least exponent of a finite number. -/
def leastExponent : Int := -1074

/-- The greatest exponent of a finite number. -/
def greatestExponent : Int := 971

/-- Zero with a sign. -/
def zero (negative : Bool) : Binary64 := .finite negative 0 leastExponent

/-- The number nearest to `±num / den`, for a positive `den`. -/
def ofRatio (negative : Bool) (num den : Nat) : Binary64 :=
  if num = 0 then zero negative
  else
    let q := max (floorLog2 num den - 52) leastExponent
    let (a, b) := powerOfTwo q
    let m := roundHalfEven (num * b) (den * a)
    let (m, q) := if m = significandBound then (leastFull, q + 1) else (m, q)
    if greatestExponent < q then .infinite negative else .finite negative m q

/-- The number nearest to `±m · 2^q`. -/
def ofScaled (negative : Bool) (m : Nat) (q : Int) : Binary64 :=
  let (a, b) := powerOfTwo q
  ofRatio negative (m * a) b

/-- The number nearest to a whole number. -/
def ofNat (n : Nat) : Binary64 := ofRatio false n 1

instance : NatCast Binary64 := ⟨ofNat⟩

/-! ### Arithmetic -/

/-- The number with its sign turned. -/
def negate : Binary64 → Binary64
  | .finite s m q => .finite (!s) m q
  | .infinite s => .infinite (!s)
  | .nan => .nan

/-- `±m` as an integer. -/
def signed (negative : Bool) (m : Nat) : Int := if negative then -(m : Int) else m

/-- The rounded sum; an exact zero is negative only when both terms are. -/
def add : Binary64 → Binary64 → Binary64
  | .finite s m q, .finite t n r =>
    let low := min q r
    let sum := signed s (m * twoTo (q - low).toNat) + signed t (n * twoTo (r - low).toNat)
    if sum = 0 then zero (s && t) else ofScaled (decide (sum < 0)) sum.natAbs low
  | .nan, _ => .nan
  | _, .nan => .nan
  | .infinite s, .infinite t => if s = t then .infinite s else .nan
  | .infinite s, .finite _ _ _ => .infinite s
  | .finite _ _ _, .infinite t => .infinite t

/-- The rounded product. -/
def mul : Binary64 → Binary64 → Binary64
  | .finite s m q, .finite t n r => ofScaled (s != t) (m * n) (q + r)
  | .nan, _ => .nan
  | _, .nan => .nan
  | .infinite s, .infinite t => .infinite (s != t)
  | .infinite s, .finite t n _ => if n = 0 then .nan else .infinite (s != t)
  | .finite s m _, .infinite t => if m = 0 then .nan else .infinite (s != t)

/-- The rounded quotient. -/
def div : Binary64 → Binary64 → Binary64
  | .finite s m q, .finite t n r =>
    if n = 0 then (if m = 0 then .nan else .infinite (s != t))
    else ofRatio (s != t) (m * twoTo (q - r).toNat) (n * twoTo (r - q).toNat)
  | .nan, _ => .nan
  | _, .nan => .nan
  | .infinite _, .infinite _ => .nan
  | .infinite s, .finite t _ _ => .infinite (s != t)
  | .finite s _ _, .infinite t => zero (s != t)

/-- What is left of the first number after taking away the second as often as it fits; exact, and
with the sign of the first. -/
def rem : Binary64 → Binary64 → Binary64
  | .finite s m q, .finite _ n r =>
    if n = 0 then .nan
    else
      let low := min q r
      ofScaled s ((m * twoTo (q - low).toNat) % (n * twoTo (r - low).toNat)) low
  | .finite s m q, .infinite _ => .finite s m q
  | _, _ => .nan

instance : Add Binary64 := ⟨add⟩
instance : Mul Binary64 := ⟨mul⟩
instance : Div Binary64 := ⟨div⟩

/-! ### Comparing -/

/-- The order of two numbers; a NaN has none. -/
def compare? : Binary64 → Binary64 → Option Ordering
  | .finite s m q, .finite t n r =>
    let low := min q r
    some (compare (signed s (m * twoTo (q - low).toNat)) (signed t (n * twoTo (r - low).toNat)))
  | .nan, _ => none
  | _, .nan => none
  | .infinite s, .infinite t => some (if s = t then .eq else if s then .lt else .gt)
  | .infinite s, .finite _ _ _ => some (if s then .lt else .gt)
  | .finite _ _ _, .infinite t => some (if t then .gt else .lt)

/-- Whether the first number is the lesser. -/
def lt (x y : Binary64) : Bool := compare? x y == some .lt

/-- Whether the first number is at most the second. -/
def le (x y : Binary64) : Bool := compare? x y == some .lt || compare? x y == some .eq

/-! ### Whole numbers out of a number -/

/-- The magnitude of a finite number as a ratio, numerator first. -/
def ratio (m : Nat) (q : Int) : Nat × Nat :=
  let (a, b) := powerOfTwo q
  (m * a, b)

/-- The whole part, held between 0 and `bound`; a NaN gives 0. -/
def truncateTo (bound : Nat) : Binary64 → Nat
  | .finite true _ _ => 0
  | .finite false m q => let (num, den) := ratio m q; min (num / den) bound
  | .infinite true => 0
  | .infinite false => bound
  | .nan => 0

/-- The nearest whole number, a tie going up, held between 0 and `bound`; a NaN gives 0. -/
def roundTo (bound : Nat) : Binary64 → Nat
  | .finite true _ _ => 0
  | .finite false m q => let (num, den) := ratio m q; min (roundHalfUp num den) bound
  | .infinite true => 0
  | .infinite false => bound
  | .nan => 0

/-! ### Interchange form -/

/-- The sign bit. -/
def signBit (negative : Bool) : Nat := if negative then Word.signedCount else 0

/-- The 64 bits of the interchange encoding. -/
def toBits : Binary64 → UInt64
  | .finite s m q =>
    if m < leastFull then UInt64.ofNat (signBit s + m)
    else UInt64.ofNat (signBit s + (q + 1075).toNat * leastFull + (m - leastFull))
  | .infinite s => UInt64.ofNat (signBit s + 2047 * leastFull)
  | .nan => UInt64.ofNat (2047 * leastFull + leastFull / 2)

end Binary64

end ProfileBrowser
