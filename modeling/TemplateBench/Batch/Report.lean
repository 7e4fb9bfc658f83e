import TemplateBench.Decimal.Fixed
import TemplateBench.Json.Printer
import TemplateBench.Suite.TemplateFile

/-!
The report on one template of a batch.
-/
namespace TemplateBench

/-! ## Outcomes -/

inductive Outcome
  | success (recordCount : Nat) (elapsed : Float)
  | failure (message : String) (trace : Option String)
  | skipped (reason : String)
  deriving Repr, Inhabited

def Outcome.label : Outcome → String
  | .success _ _ => "PASS"
  | .failure _ _ => "FAIL"
  | .skipped _ => "SKIP"

/-- More or fewer records than the expected output has. -/
structure Mismatch where
  expected : Nat
  actual : Nat
  deriving DecidableEq, Repr, Inhabited

structure Report where
  template : TemplateFile
  fixture : Option Path
  outcome : Outcome
  mismatch : Option Mismatch
  deriving Repr, Inhabited

/-! ## Text -/

def milliseconds (x : Float) : String := Decimal.fixed 2 x ++ "ms"

def Outcome.summary : Outcome → String
  | .success recordCount elapsed =>
    "Parsed " ++ Decimal.natText recordCount ++ " records in " ++ milliseconds elapsed
  | .failure message _ => message
  | .skipped reason => reason

def Report.line (r : Report) : String :=
  "[" ++ r.outcome.label ++ "] " ++ r.template.command ++ ": " ++ r.outcome.summary ++
    match r.mismatch with
    | some m => " (expected " ++ Decimal.natText m.expected ++ " records)"
    | none => ""

end TemplateBench
