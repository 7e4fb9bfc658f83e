import TemplateBench.Batch.Statistics

/-!
Statistics of a batch as counts and logs of its reports.

* `ofReports_eq`: every report adds at most one entry to each log, and every count is the length of
  what it counts.
* `ofReports_counts`: every report counts once.
* `Report.untimed`: a report without the time that it took.
* `ofReports_agrees`: reports that differ in their times and their order only have statistics that
  differ in the times and the order of their entries only (`Statistics.Agrees`).
-/
namespace TemplateBench

/-! ## What a report adds -/

namespace Report

def timing? (r : Report) : Option Timing :=
  match r.outcome with
  | .success recordCount elapsed =>
    some ⟨r.template.fileName, r.template.command, elapsed, recordCount⟩
  | _ => none

def error? (r : Report) : Option ErrorEntry :=
  match r.outcome with
  | .failure message trace => some ⟨r.template.fileName, r.template.command, message, trace⟩
  | _ => none

/-- Only the mismatch of a template that passes counts. -/
def mismatchEntry? (r : Report) : Option MismatchEntry :=
  match r.outcome with
  | .success _ _ =>
    r.mismatch.map fun m => ⟨r.template.fileName, r.template.command, m.expected, m.actual⟩
  | _ => none

def isSkipped (r : Report) : Bool :=
  match r.outcome with
  | .skipped _ => true
  | _ => false

/-- The template passed. -/
def passes (r : Report) : Bool :=
  match r.outcome with
  | .success _ _ => true
  | _ => false

end Report

namespace Statistics

theorem record_eq (s : Statistics) (r : Report) :
    s.record r =
      { total := s.total + 1
        success := s.success + r.timing?.toList.length
        failed := s.failed + r.error?.toList.length
        skipped := s.skipped + if r.isSkipped then 1 else 0
        timings := s.timings ++ r.timing?.toList
        errors := s.errors ++ r.error?.toList
        mismatches := s.mismatches ++ r.mismatchEntry?.toList } := by
  obtain ⟨template, fixture, outcome, mismatch⟩ := r
  cases outcome with
  | success recordCount elapsed => cases mismatch <;> simp [record, Report.timing?, Report.error?,
      Report.mismatchEntry?, Report.isSkipped]
  | failure message trace => simp [record, Report.timing?, Report.error?, Report.mismatchEntry?,
      Report.isSkipped]
  | skipped reason => simp [record, Report.timing?, Report.error?, Report.mismatchEntry?,
      Report.isSkipped]

theorem foldl_record (reports : List Report) (s : Statistics) :
    reports.foldl record s =
      { total := s.total + reports.length
        success := s.success + (reports.filterMap Report.timing?).length
        failed := s.failed + (reports.filterMap Report.error?).length
        skipped := s.skipped + reports.countP Report.isSkipped
        timings := s.timings ++ reports.filterMap Report.timing?
        errors := s.errors ++ reports.filterMap Report.error?
        mismatches := s.mismatches ++ reports.filterMap Report.mismatchEntry? } := by
  induction reports generalizing s with
  | nil => simp
  | cons r rest ih =>
    rw [List.foldl_cons, ih, record_eq]
    simp only [mk.injEq]
    refine ⟨?_, ?_, ?_, ?_, ?_, ?_, ?_⟩
    · simp
      omega
    · cases h : r.timing? <;> simp [h]
      omega
    · cases h : r.error? <;> simp [h]
      omega
    · simp [List.countP_cons]
      omega
    · cases h : r.timing? <;> simp [h]
    · cases h : r.error? <;> simp [h]
    · cases h : r.mismatchEntry? <;> simp [h]

/-- Statistics are counts and logs. -/
theorem ofReports_eq (reports : List Report) :
    ofReports reports =
      { total := reports.length
        success := (reports.filterMap Report.timing?).length
        failed := (reports.filterMap Report.error?).length
        skipped := reports.countP Report.isSkipped
        timings := reports.filterMap Report.timing?
        errors := reports.filterMap Report.error?
        mismatches := reports.filterMap Report.mismatchEntry? } := by
  rw [ofReports, foldl_record]
  simp

/-! ## Counts -/

theorem passes_eq (r : Report) : r.passes = r.timing?.isSome := by
  unfold Report.passes Report.timing?
  cases r.outcome <;> rfl

theorem ofReports_total (reports : List Report) : (ofReports reports).total = reports.length := by
  rw [ofReports_eq]

theorem ofReports_success (reports : List Report) :
    (ofReports reports).success = reports.countP Report.passes := by
  rw [ofReports_eq, List.length_filterMap_eq_countP]
  simp only [← passes_eq]

theorem record_counts {s : Statistics} (h : s.success + s.failed + s.skipped = s.total)
    (r : Report) :
    (s.record r).success + (s.record r).failed + (s.record r).skipped = (s.record r).total := by
  obtain ⟨template, fixture, outcome, mismatch⟩ := r
  cases outcome <;> simp only [record] <;> omega

/-- Every report counts once. -/
theorem ofReports_counts (reports : List Report) :
    (ofReports reports).success + (ofReports reports).failed + (ofReports reports).skipped =
      reports.length := by
  have hrun : ∀ s : Statistics, s.success + s.failed + s.skipped = s.total →
      (reports.foldl record s).success + (reports.foldl record s).failed +
        (reports.foldl record s).skipped = (reports.foldl record s).total := by
    induction reports with
    | nil => exact fun s h => h
    | cons r rest ih => exact fun s h => ih _ (record_counts h r)
  exact (hrun {} rfl).trans (ofReports_total reports)

end Statistics

/-! ## Times aside -/

def Timing.untimed (x : Timing) : Timing := { x with elapsed := 0 }

def Outcome.untimed : Outcome → Outcome
  | .success recordCount _ => .success recordCount 0
  | outcome => outcome

/-- The report without the time that the engine took. -/
def Report.untimed (r : Report) : Report := { r with outcome := r.outcome.untimed }

namespace Report

variable (r : Report)

theorem timing?_untimed : r.untimed.timing? = r.timing?.map Timing.untimed := by
  obtain ⟨template, fixture, outcome, mismatch⟩ := r
  cases outcome <;> rfl

theorem error?_untimed : r.untimed.error? = r.error? := by
  obtain ⟨template, fixture, outcome, mismatch⟩ := r
  cases outcome <;> rfl

theorem mismatchEntry?_untimed : r.untimed.mismatchEntry? = r.mismatchEntry? := by
  obtain ⟨template, fixture, outcome, mismatch⟩ := r
  cases outcome <;> rfl

theorem isSkipped_untimed : r.untimed.isSkipped = r.isSkipped := by
  obtain ⟨template, fixture, outcome, mismatch⟩ := r
  cases outcome <;> rfl

end Report

/-- The same counts, and the same entries in whatever order, times aside. -/
structure Statistics.Agrees (s s' : Statistics) : Prop where
  total : s.total = s'.total
  success : s.success = s'.success
  failed : s.failed = s'.failed
  skipped : s.skipped = s'.skipped
  timings : (s.timings.map Timing.untimed).Perm (s'.timings.map Timing.untimed)
  errors : s.errors.Perm s'.errors
  mismatches : s.mismatches.Perm s'.mismatches

namespace Statistics

theorem filterMap_untimed {β : Type} (f : Report → Option β) (hf : ∀ r, f r.untimed = f r)
    (reports : List Report) : (reports.map Report.untimed).filterMap f = reports.filterMap f := by
  rw [List.filterMap_map]
  exact congrArg (List.filterMap · reports) (funext hf)

theorem map_timings (reports : List Report) :
    (reports.filterMap Report.timing?).map Timing.untimed =
      (reports.map Report.untimed).filterMap Report.timing? := by
  rw [List.map_filterMap, List.filterMap_map]
  congr 1
  funext r
  exact r.timing?_untimed.symm

theorem ofReports_agrees {reports others : List Report}
    (h : (reports.map Report.untimed).Perm (others.map Report.untimed)) :
    (ofReports reports).Agrees (ofReports others) := by
  have htimings := h.filterMap Report.timing?
  rw [← map_timings, ← map_timings] at htimings
  have herrors := h.filterMap Report.error?
  rw [filterMap_untimed _ Report.error?_untimed, filterMap_untimed _ Report.error?_untimed]
    at herrors
  have hmismatches := h.filterMap Report.mismatchEntry?
  rw [filterMap_untimed _ Report.mismatchEntry?_untimed,
    filterMap_untimed _ Report.mismatchEntry?_untimed] at hmismatches
  have hskipped := h.countP_eq Report.isSkipped
  simp only [List.countP_map, Function.comp_def, Report.isSkipped_untimed] at hskipped
  rw [ofReports_eq, ofReports_eq]
  exact {
    total := by simpa using h.length_eq
    success := by simpa using htimings.length_eq
    failed := herrors.length_eq
    skipped := hskipped
    timings := htimings
    errors := herrors
    mismatches := hmismatches }

end Statistics

end TemplateBench
