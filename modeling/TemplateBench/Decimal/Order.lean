/-!
A total order on floating point numbers.

`rank` numbers them so that a greater number has a greater rank, with the negative zero below
the positive one and the NaNs at both ends.
-/
namespace TemplateBench.Decimal

/-- Half of all bit patterns have the sign bit set; among those a greater pattern is a lesser number. -/
def rank (x : Float) : Int :=
  let bits : Nat := x.toBits.toNat
  if bits < 9223372036854775808 then (bits : Int) else 9223372036854775807 - (bits : Int)

end TemplateBench.Decimal
