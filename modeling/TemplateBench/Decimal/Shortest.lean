import TemplateBench.Decimal.Dyadic

/-!
The fewest decimal digits that read back as a given binary number.

* `shortest` finds them on the coarsest decimal grid with a point that rounds to the number.
* `Layout` says how they are laid out as text: where the point stands, and from which powers of
  ten on an exponent is written.
-/
namespace TemplateBench.Decimal

/-! ## Digits -/

/-- The decimal number `digits * 10 ^ power`. -/
structure Scaled where
  digits : Nat
  power : Int
  deriving DecidableEq, Repr, Inhabited

private def pow10 (p : Int) : Nat × Nat :=
  match p with
  | .ofNat n => (Nat.pow 10 n, 1)
  | .negSucc n => (1, Nat.pow 10 (n + 1))

/-- The reals that round to `d`: half a step up and down, and half of that at a power of two. The
ends, in quarters of a step, belong to it iff the mantissa is even. -/
private def covers (d : Dyadic) (candidate : Scaled) : Bool :=
  let m := d.mantissa
  let (cn, cd) := pow10 candidate.power
  let (en, ed) := match d.exponent with
    | .ofNat e => (Nat.pow 2 e, 1)
    | .negSucc e => (1, Nat.pow 2 (e + 1))
  let value := 4 * (candidate.digits * cn) * ed
  let unit := en * cd
  let low := if m = Nat.pow 2 52 && d.exponent > -1074 then 4 * m - 1 else 4 * m - 2
  let high := 4 * m + 2
  if m % 2 = 0 then low * unit ≤ value && value ≤ high * unit
  else low * unit < value && value < high * unit

/-- The grid point next below the number and the one above, the nearer first. -/
private def neighbours (d : Dyadic) (power : Int) : List Scaled :=
  let (num, den) := d.fraction
  let (pn, pd) := pow10 power
  let num := num * pd
  let den := den * pn
  let floor := num / den
  let nearest := roundHalfEven num den
  if nearest = floor then [⟨floor, power⟩, ⟨floor + 1, power⟩]
  else [⟨floor + 1, power⟩, ⟨floor, power⟩]

private def search (d : Dyadic) (power : Int) : Nat → Scaled
  | 0 => (neighbours d power).headD ⟨0, 0⟩
  | fuel + 1 =>
    match (neighbours d power).find? (fun s => s.digits ≠ 0 && covers d s) with
    | some s => s
    | none => search d (power - 1) fuel

private def stripZeros : Nat → Scaled → Scaled
  | 0, s => s
  | fuel + 1, s =>
    if s.digits ≠ 0 && s.digits % 10 = 0 then stripZeros fuel ⟨s.digits / 10, s.power + 1⟩ else s

/-- The power of ten just above a positive number, give or take one. -/
private def magnitude (d : Dyadic) : Int :=
  let (num, den) := d.fraction
  if num ≥ den then ((digits (num / den)).length : Int)
  else 1 - ((digits (den / num)).length : Int)

/-- The shortest digits of a positive number, without trailing zeros. -/
def shortest (d : Dyadic) : Scaled :=
  if d.mantissa = 0 then ⟨0, 0⟩ else stripZeros 400 (search d (magnitude d + 1) 22)

/-! ## Layout -/

/-- How a number is written. With `n` the count of digits before the point, it is positional while
`low < n` and `n ≤ high`; a whole number ends in `.0` when `point` says so. -/
structure Layout where
  low : Int
  high : Int
  point : Bool
  nan : String
  infinity : String

def positional (point : Bool) (ds : List Char) (before : Int) : List Char :=
  if before ≤ 0 then '0' :: '.' :: List.replicate (-before).toNat '0' ++ ds
  else
    let n := before.toNat
    if ds.length ≤ n then
      ds ++ List.replicate (n - ds.length) '0' ++ (if point then ['.', '0'] else [])
    else ds.take n ++ '.' :: ds.drop n

def scientific (ds : List Char) (before : Int) : List Char :=
  let mantissa := match ds with
    | [] => []
    | [d] => [d]
    | d :: rest => d :: '.' :: rest
  mantissa ++ 'e' :: (intText (before - 1)).toList

def Layout.write (l : Layout) (x : Float) : String :=
  match decode x with
  | .nan => l.nan
  | .infinite negative => if negative then "-" ++ l.infinity else l.infinity
  | .finite d =>
    let s := shortest d
    let ds := digits s.digits
    let before := (ds.length : Int) + s.power
    let body := if d.mantissa = 0 then (if l.point then ['0', '.', '0'] else ['0'])
      else if l.low < before && before ≤ l.high then positional l.point ds before
      else scientific ds before
    String.ofList (if d.negative then '-' :: body else body)

end TemplateBench.Decimal
