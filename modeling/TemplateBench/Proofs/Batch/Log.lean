import Mathlib.Data.List.Forall2
import TemplateBench.Proofs.Batch.Statistics

/-!
The statistics of a batch as a log of its reports.

* `Timing.IsOf`, `ErrorEntry.IsOf`, `MismatchEntry.IsOf`: what an entry says of its report.
* `Statistics.Logs`: every report counts as what it is, and the reports of each kind have their
  entries, in order.
* `forall₂_filterMap`: what each report adds to a log decides what the log of all reports is.
* `ofReports_log`: recorded reports are logged, so the lengths of the logs agree with the counts.
-/
namespace TemplateBench

/-! ## Entries -/

/-- The template failed. -/
def Report.fails (r : Report) : Bool :=
  match r.outcome with
  | .failure _ _ => true
  | _ => false

/-- The template passed, with other records than expected. -/
def Report.deviates (r : Report) : Bool := r.passes && r.mismatch.isSome

structure Timing.IsOf (x : Timing) (r : Report) : Prop where
  outcome : r.outcome = .success x.recordCount x.elapsed
  template : x.template = r.template.fileName
  command : x.command = r.template.command

structure ErrorEntry.IsOf (x : ErrorEntry) (r : Report) : Prop where
  outcome : r.outcome = .failure x.message x.trace
  template : x.template = r.template.fileName
  command : x.command = r.template.command

structure MismatchEntry.IsOf (x : MismatchEntry) (r : Report) : Prop where
  mismatch : r.mismatch = some ⟨x.expected, x.actual⟩
  template : x.template = r.template.fileName
  command : x.command = r.template.command

namespace Report

variable (r : Report)

/-- The report has an entry if it is of the kind that is logged, and no entry otherwise. -/
theorem timing?_forall₂ : List.Forall₂ Timing.IsOf r.timing?.toList ([r].filter passes) := by
  obtain ⟨template, fixture, outcome, mismatch⟩ := r
  cases outcome with
  | success recordCount elapsed => exact .cons ⟨rfl, rfl, rfl⟩ .nil
  | failure message trace => exact .nil
  | skipped reason => exact .nil

theorem error?_forall₂ : List.Forall₂ ErrorEntry.IsOf r.error?.toList ([r].filter fails) := by
  obtain ⟨template, fixture, outcome, mismatch⟩ := r
  cases outcome with
  | success recordCount elapsed => exact .nil
  | failure message trace => exact .cons ⟨rfl, rfl, rfl⟩ .nil
  | skipped reason => exact .nil

theorem mismatchEntry?_forall₂ :
    List.Forall₂ MismatchEntry.IsOf r.mismatchEntry?.toList ([r].filter deviates) := by
  obtain ⟨template, fixture, outcome, mismatch⟩ := r
  cases outcome with
  | success recordCount elapsed =>
    cases mismatch with
    | none => exact .nil
    | some m => exact .cons ⟨rfl, rfl, rfl⟩ .nil
  | failure message trace => exact .nil
  | skipped reason => exact .nil

end Report

/-! ## Logs -/

namespace Statistics

/-- The statistics have logged exactly these reports. -/
structure Logs (s : Statistics) (reports : List Report) : Prop where
  total : s.total = reports.length
  success : s.success = reports.countP Report.passes
  failed : s.failed = reports.countP Report.fails
  skipped : s.skipped = reports.countP Report.isSkipped
  timings : List.Forall₂ Timing.IsOf s.timings (reports.filter Report.passes)
  errors : List.Forall₂ ErrorEntry.IsOf s.errors (reports.filter Report.fails)
  mismatches : List.Forall₂ MismatchEntry.IsOf s.mismatches (reports.filter Report.deviates)

variable {s : Statistics} {reports : List Report}

/-- If each report adds the entries that it should, so do all. -/
theorem forall₂_filterMap {α : Type} {f : Report → Option α} {p : Report → Bool}
    {R : α → Report → Prop} (h : ∀ r, List.Forall₂ R (f r).toList ([r].filter p))
    (reports : List Report) : List.Forall₂ R (reports.filterMap f) (reports.filter p) := by
  induction reports with
  | nil => exact .nil
  | cons r rest ih =>
    rw [← List.singleton_append, List.filterMap_append, List.filter_append]
    refine List.rel_append ?_ ih
    have hr := h r
    cases hf : f r with
    | none => simpa [hf] using hr
    | some x => simpa [hf] using hr

theorem ofReports_logs (reports : List Report) : (ofReports reports).Logs reports := by
  have hpassed := forall₂_filterMap Report.timing?_forall₂ reports
  have hfailed := forall₂_filterMap Report.error?_forall₂ reports
  have hdeviating := forall₂_filterMap Report.mismatchEntry?_forall₂ reports
  rw [ofReports_eq]
  exact {
    total := rfl
    success := hpassed.length_eq.trans List.countP_eq_length_filter.symm
    failed := hfailed.length_eq.trans List.countP_eq_length_filter.symm
    skipped := rfl
    timings := hpassed
    errors := hfailed
    mismatches := hdeviating }

namespace Logs

theorem length_timings (h : s.Logs reports) : s.timings.length = s.success := by
  rw [h.success, List.countP_eq_length_filter, h.timings.length_eq]

theorem length_errors (h : s.Logs reports) : s.errors.length = s.failed := by
  rw [h.failed, List.countP_eq_length_filter, h.errors.length_eq]

/-- Only templates that pass have their mismatch logged. -/
theorem length_mismatches_le (h : s.Logs reports) : s.mismatches.length ≤ s.success := by
  rw [h.success, h.mismatches.length_eq, ← List.countP_eq_length_filter]
  refine List.countP_mono_left fun r _ hr => ?_
  exact (Bool.and_eq_true_iff.mp hr).1

end Logs

/-- **The log of a batch.** Every report counts once, as what it is. The times are those of the
templates that passed, the errors those of the templates that failed, and the mismatches those of
the templates that passed with other records than expected, all in order. -/
theorem ofReports_log (reports : List Report) :
    (ofReports reports).Logs reports ∧
    (ofReports reports).success + (ofReports reports).failed + (ofReports reports).skipped =
      reports.length ∧
    (ofReports reports).timings.length = (ofReports reports).success ∧
    (ofReports reports).errors.length = (ofReports reports).failed ∧
    (ofReports reports).mismatches.length ≤ (ofReports reports).success := by
  have h := ofReports_logs reports
  exact ⟨h, ofReports_counts reports, h.length_timings, h.length_errors, h.length_mismatches_le⟩

end Statistics

end TemplateBench
