import TemplateBench.Text.Letters

/-!
Numbers from their digits: natural numbers to a base, and floating point numbers, which are the
nearest to the decimal that is written.
-/
namespace TemplateBench.Decimal
open Text

/-! ## Digits -/

def digitValue? (base : Nat) (c : Char) : Option Nat :=
  let n :=
    if isAsciiDigit c then c.toNat - 48
    else if 'a' ≤ c && c ≤ 'z' then c.toNat - 87
    else if 'A' ≤ c && c ≤ 'Z' then c.toNat - 55
    else base
  if n < base then some n else none

/-- A number to a base; at least one digit is required. -/
def readNat? (base : Nat) (cs : List Char) : Option Nat :=
  if cs.isEmpty then none
  else cs.foldlM (fun n c => (digitValue? base c).map (base * n + ·)) 0

/-- The digit of a value below sixteen. -/
def hexDigit (n : Nat) : Char := Char.ofNat (if n < 10 then 48 + n else 87 + n)

/-- The number that decimal digits spell. -/
def natOfDigits (ds : List Char) : Nat := ds.foldl (fun n d => 10 * n + (d.toNat - 48)) 0

/-! ## Floating point -/

/-- The nearest floating point number to `digits * 10 ^ power`. -/
def nearest (digits : Nat) (power : Int) : Float :=
  match power with
  | .ofNat n => if digits = 0 then 0.0 else if n > 400 then 1.0 / 0.0 else Float.ofScientific digits false n
  | .negSucc n =>
    if (n : Int) > 400 + (Nat.log2 digits : Int) then 0.0 else Float.ofScientific digits true (n + 1)

/-- An exponent after its mark. -/
def readExponent? (cs : List Char) : Option (Int × List Char) :=
  let (negative, cs) := match cs with
    | '-' :: cs => (true, cs)
    | '+' :: cs => (false, cs)
    | cs => (false, cs)
  match cs.span isAsciiDigit with
  | ([], _) => none
  | (ds, rest) =>
    let n : Int := natOfDigits ds
    some (if negative then -n else n, rest)

/-- An unsigned decimal with an optional point and exponent; one side of the point may be empty. -/
def readFloat? (cs : List Char) : Option Float :=
  let (whole, rest) := cs.span isAsciiDigit
  let (part, rest) := match rest with
    | '.' :: more => more.span isAsciiDigit
    | _ => ([], rest)
  if whole.isEmpty && part.isEmpty then none
  else
    let value (power : Int) := nearest (natOfDigits (whole ++ part)) (power - part.length)
    match rest with
    | [] => some (value 0)
    | 'e' :: more | 'E' :: more =>
      match readExponent? more with
      | some (power, []) => some (value power)
      | _ => none
    | _ => none

/-- A decimal with an optional sign. -/
def readSignedFloat? (cs : List Char) : Option Float :=
  match cs with
  | '-' :: rest => (readFloat? rest).map (-·)
  | '+' :: rest => readFloat? rest
  | cs => readFloat? cs

end TemplateBench.Decimal
