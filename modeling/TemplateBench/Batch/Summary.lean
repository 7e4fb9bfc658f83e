import TemplateBench.Batch.Statistics
import TemplateBench.Decimal.Order

/-!
The summary of a batch: rates, times, the fastest and the slowest templates, and a verdict.

* `Statistics.rate` is a percentage, and zero for an empty batch. Rates and verdict are computed in
  any kind of number; the program takes floating point.
* `percentile` is the nearest rank below, so it is always one of the times.
* `Statistics.slowest` is the end of the ranking of which `Statistics.fastest` is the beginning.
-/
namespace TemplateBench

/-! ## Verdict -/

inductive Verdict
  | allPassed
  | mostlyWorking
  | majorityWorking
  | needsAttention
  deriving DecidableEq, Repr, Inhabited

namespace Verdict

def name : Verdict → String
  | .allPassed => "all_passed"
  | .mostlyWorking => "mostly_working"
  | .majorityWorking => "majority_working"
  | .needsAttention => "needs_attention"

def message : Verdict → String
  | .allPassed => "All templates passed!"
  | .mostlyWorking => "Most templates are working correctly."
  | .majorityWorking => "The majority of templates are working, but some need attention."
  | .needsAttention => "Several templates need attention."

/-- The verdict on a success rate in percent. -/
def ofRate {α : Type} [NatCast α] [LE α] [DecidableLE α] (rate : α) : Verdict :=
  if ((100 : Nat) : α) ≤ rate then .allPassed
  else if ((90 : Nat) : α) ≤ rate then .mostlyWorking
  else if ((75 : Nat) : α) ≤ rate then .majorityWorking
  else .needsAttention

end Verdict

/-! ## Rates -/

instance floatOfNat : NatCast Float := ⟨Float.ofNat⟩

/-- `count` out of `total`, in percent. -/
def percentage (α : Type) [NatCast α] [Div α] [Mul α] (count total : Nat) : α :=
  if total = 0 then ((0 : Nat) : α) else (count : α) / (total : α) * ((100 : Nat) : α)

structure Rates (α : Type) where
  success : α
  failed : α
  skipped : α

def Statistics.rates (α : Type) [NatCast α] [Div α] [Mul α] (s : Statistics) : Rates α :=
  ⟨percentage α s.success s.total, percentage α s.failed s.total, percentage α s.skipped s.total⟩

/-- The success rate alone decides. -/
def Rates.verdict {α : Type} [NatCast α] [LE α] [DecidableLE α] (r : Rates α) : Verdict :=
  .ofRate r.success

/-! ## Ranking -/

/-- How many templates the fastest and the slowest ones are. -/
def rankedCount : Nat := 5

/-- Timings by increasing time; those of equal time keep their order. -/
def ranked (timings : List Timing) : List Timing :=
  timings.mergeSort fun a b => Decimal.rank a.elapsed ≤ Decimal.rank b.elapsed

def Statistics.fastest (s : Statistics) : List Timing := (ranked s.timings).take rankedCount

/-- The slowest comes first. -/
def Statistics.slowest (s : Statistics) : List Timing :=
  (ranked s.timings).reverse.take rankedCount

/-! ## Times -/

def Statistics.times (s : Statistics) : List Float := s.timings.map (·.elapsed)

/-- The time below which the fraction `num / den` of all times lies, rounded down to a time that
was measured; zero if there is none. -/
def percentile (times : List Float) (num den : Nat) : Float :=
  let sorted := times.mergeSort fun a b => Decimal.rank a ≤ Decimal.rank b
  sorted.getD ((times.length - 1) * num / den) 0.0

/-- The sum of no times is the negative zero. -/
def sum (times : List Float) : Float := times.foldl (· + ·) (-0.0)

def average (times : List Float) : Float :=
  if times.isEmpty then 0.0 else sum times / Float.ofNat times.length

/-! ## Summary -/

structure Summary where
  mode : Option String
  statistics : Statistics

namespace Summary

def rates (s : Summary) : Rates Float := s.statistics.rates Float

def verdict (s : Summary) : Verdict := s.rates.verdict

def total (s : Summary) : Float := sum s.statistics.times

def mean (s : Summary) : Float := average s.statistics.times

def median (s : Summary) : Float := percentile s.statistics.times 1 2

def p95 (s : Summary) : Float := percentile s.statistics.times 19 20

end Summary

end TemplateBench
