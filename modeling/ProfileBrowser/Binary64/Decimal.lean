import ProfileBrowser.Binary64.Basic
/-!
# Decimal text of binary64 numbers

Three texts, each from the exact value: a fixed number of places (`fixed`), the fewest digits that
read back as the number (`shortest`), and the reading of a decimal literal (`ofDecimal`). Nothing
here depends on how a machine prints its floating-point numbers.
-/

namespace ProfileBrowser.Binary64

/-! ### Fixed places -/

/-- A list of `n` copies of the digit zero. -/
def zeros (n : Nat) : String := String.ofList (List.replicate n '0')

/-- A whole number of hundredths, thousandths …: `places` digits after the point. -/
def withPoint (places n : Nat) : String :=
  let whole := toString (n / tenTo places)
  if places = 0 then whole
  else
    let tail := toString (n % tenTo places)
    whole ++ "." ++ zeros (places - tail.length) ++ tail

/-- The exact value rounded to `places` decimals, a tie going to the even neighbour. -/
def fixed (places : Nat) : Binary64 → String
  | .finite s m q =>
    let (num, den) := ratio m q
    (if s then "-" else "") ++ withPoint places (roundHalfEven (num * tenTo places) den)
  | .infinite s => if s then "-inf" else "inf"
  | .nan => "NaN"

/-! ### Shortest digits -/

/-- `10^e` as a ratio, numerator first. -/
def powerOfTen (e : Int) : Nat × Nat := (tenTo e.toNat, tenTo (-e).toNat)

/-- The greatest `e` with `10^e ≤ num / den`, for a positive ratio. -/
def floorLog10 (num den : Nat) : Int :=
  let guess : Int := (floorLog2 num den * 30103).fdiv 100000
  let atLeast (e : Int) : Bool := let (a, b) := powerOfTen e; decide (den * a ≤ num * b)
  if atLeast (guess + 1) then guess + 1 else if atLeast guess then guess else guess - 1

/-- A decimal numeral `digits · 10^exponent`. -/
structure Numeral where
  digits : Nat
  exponent : Int
deriving DecidableEq, Repr, Inhabited

/-- The reals that round to `m · 2^q`, in units of `2^(q-2)`: the lower end, the upper end and
whether the ends belong to it. Below a power of two the neighbour is half as far. -/
def roundingInterval (m : Nat) (q : Int) : Nat × Nat × Bool :=
  let below := if m = leastFull ∧ leastExponent < q then 1 else 2
  (4 * m - below, 4 * m + 2, m % 2 = 0)

/-- The point of the grid of multiples of `10^e` that lies in the rounding interval of `m · 2^q` and
is nearest to it, if there is one; a tie goes to the even multiple. -/
def onGrid (m : Nat) (q e : Int) : Option Numeral :=
  let (low, high, ends) := roundingInterval m q
  let (a, b) := powerOfTwo (q - 2)
  let (c, d) := powerOfTen e
  -- `x` quarter units and `k` grid steps compare as `x * unit` and `k * step`
  let unit := a * d
  let step := c * b
  let inside (k : Nat) : Bool :=
    if ends then decide (low * unit ≤ k * step) && decide (k * step ≤ high * unit)
    else decide (low * unit < k * step) && decide (k * step < high * unit)
  let k := 4 * m * unit / step
  let rest := 4 * m * unit % step
  match inside k, inside (k + 1) with
  | true, false => some ⟨k, e⟩
  | false, true => some ⟨k + 1, e⟩
  | true, true =>
    if 2 * rest < step ∨ (2 * rest = step ∧ k % 2 = 0) then some ⟨k, e⟩ else some ⟨k + 1, e⟩
  | false, false => none

/-- The first grid with a point in the interval, from `n` digits on, over `fuel` numbers of digits;
`top` is the exponent of the first digit. -/
def firstGrid (m : Nat) (q top : Int) : Nat → Nat → Numeral
  | 0, n => ⟨0, top - n⟩
  | fuel + 1, n => (onGrid m q (top - n)).getD (firstGrid m q top fuel (n + 1))

/-- The numeral with the fewest digits that reads back as `m · 2^q`, for a positive `m`. Seventeen
digits always suffice. -/
def shortest (m : Nat) (q : Int) : Numeral :=
  let (num, den) := ratio m q
  firstGrid m q (floorLog10 num den) 17 0

/-- The digits of a numeral without trailing zeros, and the exponent of the first of them. -/
def scientificParts (x : Numeral) : String × Int :=
  let text := toString x.digits
  (String.ofList (text.toList.reverse.dropWhile (· == '0')).reverse, x.exponent + text.length - 1)

/-- Digits with the point where exponent `e` of the first digit puts it; a whole number ends in the
given tail. -/
def positional (digits : String) (e : Int) (wholeTail : String) : String :=
  if e < 0 then "0." ++ zeros (-e - 1).toNat ++ digits
  else
    let n := e.toNat + 1
    if digits.length ≤ n then digits ++ zeros (n - digits.length) ++ wholeTail
    else String.ofList (digits.toList.take n) ++ "." ++ String.ofList (digits.toList.drop n)

/-- The shortest digits, always positional and without a point for a whole number. -/
def plain : Binary64 → String
  | .finite s m q =>
    let sign := if s then "-" else ""
    if m = 0 then sign ++ "0"
    else
      let (digits, e) := scientificParts (shortest m q)
      sign ++ positional digits e ""
  | .infinite s => if s then "-inf" else "inf"
  | .nan => "NaN"

/-! ### Reading -/

/-- How many decimal digits a whole number has. -/
def digitCount (n : Nat) : Nat := (toString n).length

/-- The number nearest to `±digits · 10^exponent`. Far outside the range the answer is known without
computing the power. -/
def ofDecimal (negative : Bool) (digits : Nat) (exponent : Int) : Binary64 :=
  if digits = 0 then zero negative
  else
    let top := digitCount digits + exponent
    if 310 < top then .infinite negative
    else if top < -330 then zero negative
    else
      let (c, d) := powerOfTen exponent
      ofRatio negative (digits * c) d

end ProfileBrowser.Binary64
