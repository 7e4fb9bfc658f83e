import TemplateBench.Batch.Report

/-!
Statistics of a batch: how many templates ended in which way, and the log of what happened.

`Statistics.record` adds one report. Only a template that passes has a time, and only its mismatch
counts; only one that fails has an error.
-/
namespace TemplateBench

/-! ## Log entries -/

structure Timing where
  template : String
  command : String
  elapsed : Float
  recordCount : Nat
  deriving Repr, Inhabited

structure ErrorEntry where
  template : String
  command : String
  message : String
  trace : Option String
  deriving DecidableEq, Repr, Inhabited

structure MismatchEntry where
  template : String
  command : String
  expected : Nat
  actual : Nat
  deriving DecidableEq, Repr, Inhabited

/-! ## Statistics -/

/-- Entries are in the order in which the reports came in. -/
structure Statistics where
  total : Nat := 0
  success : Nat := 0
  failed : Nat := 0
  skipped : Nat := 0
  timings : List Timing := []
  errors : List ErrorEntry := []
  mismatches : List MismatchEntry := []
  deriving Repr, Inhabited

namespace Statistics

def record (s : Statistics) (r : Report) : Statistics :=
  let ⟨template, command, _⟩ := r.template
  match r.outcome with
  | .success recordCount elapsed =>
    { s with
      total := s.total + 1
      success := s.success + 1
      timings := s.timings ++ [⟨template, command, elapsed, recordCount⟩]
      mismatches := s.mismatches ++
        r.mismatch.toList.map fun m => ⟨template, command, m.expected, m.actual⟩ }
  | .failure message trace =>
    { s with
      total := s.total + 1
      failed := s.failed + 1
      errors := s.errors ++ [⟨template, command, message, trace⟩] }
  | .skipped _ => { s with total := s.total + 1, skipped := s.skipped + 1 }

def ofReports (reports : List Report) : Statistics := reports.foldl record {}

end Statistics

end TemplateBench
