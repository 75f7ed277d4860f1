import ProfileBrowser.Binary64.Decimal
/-!
# Float literals

The grammar of a decimal float literal and its value: an optional sign; then digits, a point and
digits of which one part may be missing, and an optional exponent; or one of the words `inf`,
`infinity` and `nan` in any case. No blanks and no digit separators.
-/

namespace ProfileBrowser.Binary64

/-- The value of a run of decimal digits. -/
def digitsValue (ds : List Char) : Nat := ds.foldl (fun n c => n * 10 + (c.toNat - 48)) 0

/-- The exponent part of a literal: nothing, or a mark, an optional sign and at least one digit. -/
def exponentPart? : List Char → Option Int
  | [] => some 0
  | mark :: rest =>
    if mark ≠ 'e' ∧ mark ≠ 'E' then none
    else
      let (negative, ds) := match rest with
        | '-' :: ds => (true, ds)
        | '+' :: ds => (false, ds)
        | ds => (false, ds)
      if ds.isEmpty || !ds.all Char.isDigit then none
      else some (if negative then -(digitsValue ds : Int) else digitsValue ds)

/-- The value of a literal without its sign, with the given sign. -/
def unsignedLiteral? (negative : Bool) (cs : List Char) : Option Binary64 :=
  let whole := cs.takeWhile Char.isDigit
  let (fraction, rest) := match cs.dropWhile Char.isDigit with
    | '.' :: more => (more.takeWhile Char.isDigit, more.dropWhile Char.isDigit)
    | more => ([], more)
  if whole.isEmpty && fraction.isEmpty then
    match String.ofList (cs.map Char.toLower) with
    | "inf" | "infinity" => some (.infinite negative)
    | "nan" => some .nan
    | _ => none
  else
    (exponentPart? rest).map fun e =>
      ofDecimal negative (digitsValue (whole ++ fraction)) (e - fraction.length)

/-- The value of a literal. -/
def ofLiteral? : List Char → Option Binary64
  | '-' :: cs => unsignedLiteral? true cs
  | '+' :: cs => unsignedLiteral? false cs
  | cs => unsignedLiteral? false cs

end ProfileBrowser.Binary64
