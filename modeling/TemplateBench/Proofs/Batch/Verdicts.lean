import Mathlib.Algebra.Order.Field.Basic
import Mathlib.Algebra.Order.Field.Rat
import Mathlib.Tactic.Positivity
import Mathlib.Tactic.Ring
import TemplateBench.Batch.Summary
import TemplateBench.Proofs.Batch.Statistics

/-!
The rates and the verdict of a batch, in exact numbers.

* `le_percentage_iff`: whether a percentage reaches a bound is told by whole numbers.
* `ofRate_percentage`: so is the verdict on a percentage.
* `ofRate_mono`: a higher rate has no worse verdict. `percentage_passed` and `percentage_failed` say
  what one more report does to the success rate.
* `verdict_of_reports`: the verdict is told by how many templates passed, and a further report does
  not make it worse if its template passed, and not better if it did not.
-/
namespace TemplateBench

/-- How good a verdict is. -/
def Verdict.grade : Verdict → Nat
  | .allPassed => 3
  | .mostlyWorking => 2
  | .majorityWorking => 1
  | .needsAttention => 0

/-- The rates that a summary shows for reports recorded one after the other, without rounding. -/
def exactRates (reports : List Report) : Rates ℚ := (Statistics.ofReports reports).rates ℚ

/-! ## Percentages -/

theorem le_percentage_iff (count total : Nat) {bound : Nat} (hb : 0 < bound) :
    ((bound : Nat) : ℚ) ≤ percentage ℚ count total ↔ 0 < total ∧ bound * total ≤ 100 * count := by
  rcases Nat.eq_zero_or_pos total with rfl | ht
  · simp [percentage, hb.ne']
  · have htotal : (0 : ℚ) < total := by exact_mod_cast ht
    rw [percentage, if_neg ht.ne', div_mul_eq_mul_div, le_div_iff₀ htotal, mul_comm (count : ℚ)]
    norm_cast
    simp [ht]

/-- The verdict on a percentage, told by whole numbers. -/
theorem ofRate_percentage (count total : Nat) :
    Verdict.ofRate (percentage ℚ count total) =
      if 0 < total ∧ total ≤ count then .allPassed
      else if 0 < total ∧ 9 * total ≤ 10 * count then .mostlyWorking
      else if 0 < total ∧ 3 * total ≤ 4 * count then .majorityWorking
      else .needsAttention := by
  have hall : (100 * total ≤ 100 * count) = (total ≤ count) := propext (by omega)
  have hmost : (90 * total ≤ 100 * count) = (9 * total ≤ 10 * count) := propext (by omega)
  have hmajor : (75 * total ≤ 100 * count) = (3 * total ≤ 4 * count) := propext (by omega)
  unfold Verdict.ofRate
  simp only [le_percentage_iff count total (by decide : 0 < 100),
    le_percentage_iff count total (by decide : 0 < 90),
    le_percentage_iff count total (by decide : 0 < 75), hall, hmost, hmajor]

/-- The rates of all parts of a batch make up the whole. -/
theorem percentage_add (a b c : Nat) (h : 0 < a + b + c) :
    percentage ℚ a (a + b + c) + percentage ℚ b (a + b + c) + percentage ℚ c (a + b + c) = 100 := by
  have hsum : ((a + b + c : Nat) : ℚ) ≠ 0 := by exact_mod_cast h.ne'
  simp only [percentage, if_neg h.ne']
  rw [← add_mul, ← add_mul, ← add_div, ← add_div, ← Nat.cast_add, ← Nat.cast_add,
    div_self hsum, one_mul]
  norm_cast

theorem percentage_nonneg (count total : Nat) : 0 ≤ percentage ℚ count total := by
  unfold percentage
  split
  · simp
  · positivity

theorem percentage_le_percentage {count total count' total' : Nat} (ht : 0 < total)
    (ht' : 0 < total') (h : count * total' ≤ count' * total) :
    percentage ℚ count total ≤ percentage ℚ count' total' := by
  have htotal : (0 : ℚ) < total := by exact_mod_cast ht
  have htotal' : (0 : ℚ) < total' := by exact_mod_cast ht'
  simp only [percentage, if_neg ht.ne', if_neg ht'.ne']
  gcongr ?_ * _
  rw [div_le_div_iff₀ htotal htotal']
  exact_mod_cast h

/-- One more template that passes does not lower the rate. -/
theorem percentage_passed {count total : Nat} (h : count ≤ total) :
    percentage ℚ count total ≤ percentage ℚ (count + 1) (total + 1) := by
  rcases Nat.eq_zero_or_pos total with rfl | ht
  · exact percentage_nonneg _ _
  · refine percentage_le_percentage ht (Nat.succ_pos _) ?_
    calc count * (total + 1) = count * total + count := by ring
      _ ≤ count * total + total := Nat.add_le_add_left h _
      _ = (count + 1) * total := by ring

/-- One more template that does not pass does not raise it. -/
theorem percentage_failed {count total : Nat} (h : count ≤ total) :
    percentage ℚ count (total + 1) ≤ percentage ℚ count total := by
  rcases Nat.eq_zero_or_pos total with rfl | ht
  · rw [Nat.le_zero.mp h]
    simp [percentage]
  · exact percentage_le_percentage (Nat.succ_pos _) ht (Nat.mul_le_mul_left _ (Nat.le_succ _))

theorem ofRate_mono {rate rate' : ℚ} (h : rate ≤ rate') :
    (Verdict.ofRate rate).grade ≤ (Verdict.ofRate rate').grade := by
  -- A bound that the lower rate reaches is reached by the higher one.
  have hreach : ∀ bound : Nat, (bound : ℚ) ≤ rate → (bound : ℚ) ≤ rate' := fun _ hb => hb.trans h
  unfold Verdict.ofRate
  by_cases hall : ((100 : Nat) : ℚ) ≤ rate
  · rw [if_pos hall, if_pos (hreach _ hall)]
  · rw [if_neg hall]
    by_cases hmost : ((90 : Nat) : ℚ) ≤ rate
    · rw [if_pos hmost, if_pos (hreach _ hmost)]
      split <;> simp [Verdict.grade]
    · rw [if_neg hmost]
      by_cases hmajor : ((75 : Nat) : ℚ) ≤ rate
      · rw [if_pos hmajor, if_pos (hreach _ hmajor)]
        split
        · simp [Verdict.grade]
        · split <;> simp [Verdict.grade]
      · rw [if_neg hmajor]
        exact Nat.zero_le _

/-! ## Batches -/

theorem exactRates_success (reports : List Report) :
    (exactRates reports).success =
      percentage ℚ (reports.countP Report.passes) reports.length := by
  rw [← Statistics.ofReports_success, ← Statistics.ofReports_total]
  rfl

theorem exactRates_sum {reports : List Report} (h : reports ≠ []) :
    (exactRates reports).success + (exactRates reports).failed + (exactRates reports).skipped =
      100 := by
  have hcounts := Statistics.ofReports_counts reports
  have hpos := List.length_pos_iff.mpr h
  simp only [exactRates, Statistics.rates, Statistics.ofReports_total, ← hcounts]
  exact percentage_add _ _ _ (by omega)

/-- **The verdict.** The rates of a batch make up a hundred, or are zero if it is empty. All
templates passed if there are any and each of them did; else the verdict is told by whether nine
tenths or three quarters of them passed. A further report does not make it worse if its template
passed, and not better if it did not. -/
theorem verdict_of_reports (reports : List Report) :
    (reports ≠ [] →
      (exactRates reports).success + (exactRates reports).failed + (exactRates reports).skipped =
        100) ∧
    exactRates [] = ⟨0, 0, 0⟩ ∧
    (exactRates reports).verdict =
      (if reports ≠ [] ∧ ∀ r ∈ reports, r.passes = true then .allPassed
      else if 0 < reports.length ∧ 9 * reports.length ≤ 10 * reports.countP Report.passes then
        .mostlyWorking
      else if 0 < reports.length ∧ 3 * reports.length ≤ 4 * reports.countP Report.passes then
        .majorityWorking
      else .needsAttention) ∧
    ∀ r : Report,
      (r.passes = true →
        (exactRates reports).verdict.grade ≤ (exactRates (reports ++ [r])).verdict.grade) ∧
      (r.passes = false →
        (exactRates (reports ++ [r])).verdict.grade ≤ (exactRates reports).verdict.grade) := by
  have hle := List.countP_le_length (p := Report.passes) (l := reports)
  refine ⟨exactRates_sum, ?empty, ?verdict, fun r => ⟨fun hr => ?passed, fun hr => ?failed⟩⟩
  case empty =>
    simp [exactRates, Statistics.rates, Statistics.ofReports, percentage]
  case verdict =>
    have hall : (0 < reports.length ∧ reports.length ≤ reports.countP Report.passes) ↔
        (reports ≠ [] ∧ ∀ r ∈ reports, r.passes = true) := by
      rw [List.length_pos_iff, ← List.countP_eq_length]
      exact and_congr_right fun _ => ⟨fun h => Nat.le_antisymm hle h, fun h => h.ge⟩
    rw [Rates.verdict, exactRates_success, ofRate_percentage]
    simp only [hall]
  case passed =>
    refine ofRate_mono ?_
    rw [exactRates_success, exactRates_success, List.countP_append, List.length_append,
      List.countP_singleton, if_pos hr]
    exact percentage_passed hle
  case failed =>
    refine ofRate_mono ?_
    rw [exactRates_success, exactRates_success, List.countP_append, List.length_append,
      List.countP_singleton, hr, if_neg Bool.false_ne_true]
    exact percentage_failed hle

def passedReport : Report := ⟨⟨"a.textfsm", "a", ⟨"a.textfsm"⟩⟩, none, .success 1 0.5, none⟩

def skippedReport : Report := ⟨⟨"b.textfsm", "b", ⟨"b.textfsm"⟩⟩, none, .skipped "no fixture", none⟩

/-- Nine templates pass, and a tenth one that is skipped makes the verdict worse. -/
theorem verdict_of_reports_nine :
    (exactRates (List.replicate 9 passedReport)).verdict = .allPassed ∧
    (exactRates (List.replicate 9 passedReport ++ [skippedReport])).verdict = .mostlyWorking ∧
    (exactRates (List.replicate 9 passedReport ++ [skippedReport])).verdict.grade ≤
      (exactRates (List.replicate 9 passedReport)).verdict.grade := by
  obtain ⟨_, _, hnine, hmore⟩ := verdict_of_reports (List.replicate 9 passedReport)
  obtain ⟨_, _, hten, _⟩ := verdict_of_reports (List.replicate 9 passedReport ++ [skippedReport])
  refine ⟨?_, ?_, (hmore skippedReport).2 rfl⟩
  · rw [hnine]
    decide
  · rw [hten]
    decide

end TemplateBench
