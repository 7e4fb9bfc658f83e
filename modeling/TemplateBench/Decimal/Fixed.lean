import TemplateBench.Decimal.Dyadic

/-!
Numbers with a fixed count of decimal places, rounded from the exact binary value.
-/
namespace TemplateBench.Decimal

/-- Places after the point of `n / 10 ^ places`. -/
def placed (places n : Nat) : List Char :=
  let ds := digits n
  let ds := List.replicate (places + 1 - ds.length) '0' ++ ds
  let whole := ds.take (ds.length - places)
  if places = 0 then whole else whole ++ '.' :: ds.drop (ds.length - places)

/-- The number with the given count of places, ties to even; the sign of zero is kept. -/
def fixed (places : Nat) (x : Float) : String :=
  match decode x with
  | .nan => "NaN"
  | .infinite negative => if negative then "-inf" else "inf"
  | .finite d =>
    let (num, den) := d.fraction
    let body := placed places (roundHalfEven (num * Nat.pow 10 places) den)
    String.ofList (if d.negative then '-' :: body else body)

end TemplateBench.Decimal
