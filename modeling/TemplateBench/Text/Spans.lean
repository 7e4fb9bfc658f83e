/-!
Sets of characters given as sorted, disjoint spans of code points.
-/
namespace TemplateBench.Text

/-- Spans of code points, both ends included, in increasing order. -/
abbrev Spans := List (Nat × Nat)

/-- The search stops at the first span that ends beyond `n`, as the spans increase. -/
def Spans.coversCode : Spans → Nat → Bool
  | [], _ => false
  | (lo, hi) :: rest, n => if n ≤ hi then decide (lo ≤ n) else coversCode rest n

def Spans.covers (s : Spans) (c : Char) : Bool := s.coversCode c.toNat

end TemplateBench.Text
