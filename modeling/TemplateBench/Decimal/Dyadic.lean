/-!
Binary floating point numbers as exact quotients of integers.

* `Dyadic.ofFloat` decodes a finite number into a sign, a mantissa and a power of two.
* `roundHalfEven` divides with the nearest quotient, a tie going to the even one.
* `digits` writes a natural number in base ten.
-/
namespace TemplateBench.Decimal

/-! ## Decoding -/

/-- The number `mantissa * 2 ^ exponent`, or its opposite. -/
structure Dyadic where
  negative : Bool
  mantissa : Nat
  exponent : Int
  deriving DecidableEq, Repr, Inhabited

inductive Decoded
  | finite (d : Dyadic)
  | infinite (negative : Bool)
  | nan
  deriving DecidableEq, Repr, Inhabited

/-- The fields of a double: one sign bit, eleven bits of exponent, fifty-two of fraction. -/
def decode (x : Float) : Decoded :=
  let bits := x.toBits.toNat
  let negative := bits / Nat.pow 2 63 == 1
  let biased : Nat := bits / Nat.pow 2 52 % 2048
  let fraction := bits % Nat.pow 2 52
  if biased = 2047 then (if fraction = 0 then .infinite negative else .nan)
  else if biased = 0 then .finite ⟨negative, fraction, -1074⟩
  else .finite ⟨negative, fraction + Nat.pow 2 52, (biased : Int) - 1075⟩

/-- Numerator and denominator of the absolute value. -/
def Dyadic.fraction (d : Dyadic) : Nat × Nat :=
  match d.exponent with
  | .ofNat e => (d.mantissa * Nat.pow 2 e, 1)
  | .negSucc e => (d.mantissa, Nat.pow 2 (e + 1))

/-! ## Digits -/

def digitChar (n : Nat) : Char := Char.ofNat (48 + n)

def digitsFrom : Nat → Nat → List Char → List Char
  | 0, _, acc => acc
  | fuel + 1, n, acc =>
    if n < 10 then digitChar n :: acc else digitsFrom fuel (n / 10) (digitChar (n % 10) :: acc)

/-- The decimal digits of a number, without leading zeros. -/
def digits (n : Nat) : List Char := digitsFrom (n.log2 + 1) n []

def natText (n : Nat) : String := String.ofList (digits n)

def intText : Int → String
  | .ofNat n => natText n
  | .negSucc n => "-" ++ natText (n + 1)

/-! ## Rounding -/

/-- The integer nearest to `num / den`; of two equally near, the even one. -/
def roundHalfEven (num den : Nat) : Nat :=
  let q := num / den
  let twice := 2 * (num % den)
  if twice < den || (twice = den && q % 2 = 0) then q else q + 1

end TemplateBench.Decimal
