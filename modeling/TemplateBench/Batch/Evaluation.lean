import TemplateBench.Batch.Report
import TemplateBench.Suite.Expectation
import TemplateBench.Suite.Settings

/-!
Evaluating one template: its fixture is located, both are read, and the engine is applied.

* `Bench.prepare` is all that comes before the engine, and `Bench.conclude` all that comes after.
* A problem of one template becomes the outcome of that template. When the engine breaks down, the
  report no longer names the fixture.
-/
namespace TemplateBench

/-- What templates are evaluated with. -/
structure Bench where
  engine : Engine
  fixtures : Fixtures
  vendor : String
  checkExpected : Bool := false

namespace Bench

def ofSettings (s : Settings) (engine : Engine) : Bench :=
  ⟨engine, ⟨s.fixtureFolder, s.fixtureExtension⟩, s.vendor, s.checkExpected⟩

/-- The engine is the one of the mode that the settings name. -/
def ofRegistry (s : Settings) (r : Registry) : Except Problem Bench :=
  match r.resolve s.mode with
  | .ok mode => .ok (ofSettings s mode.engine)
  | .error e => .error (.unknownMode e)

/-! ## Before the engine -/

def noFixture : String := "No matching fixture file found"

def readFailure (path : Path) (e : FileError) : Outcome :=
  .failure ("Failed to read " ++ path.text ++ ": " ++ e.message) (some e.message)

inductive Preparation
  /-- The outcome is known without the engine. -/
  | settled (fixture : Option Path) (outcome : Outcome)
  | ready (fixture : Path) (source template : String)
  deriving Repr, Inhabited

def prepare (b : Bench) (t : FileTree) (file : TemplateFile) : Preparation :=
  match b.fixtures.locate t b.vendor file.command with
  | none => .settled none (.skipped noFixture)
  | some fixture =>
    match t.read file.path with
    | .error e => .settled (some fixture) (readFailure file.path e)
    | .ok template =>
      match t.read fixture with
      | .error e => .settled (some fixture) (readFailure fixture e)
      | .ok source => .ready fixture source template

/-! ## After the engine -/

structure Evaluation where
  report : Report
  output : Option Output
  deriving Repr, Inhabited

/-- A sidecar that cannot be read, or that expects no count, is ignored. -/
def mismatch? (t : FileTree) (fixture : Path) (actual : Nat) : Option Mismatch :=
  match (sidecar? t fixture).map (expectedCount t) with
  | some (.ok (some expected)) => if expected = actual then none else some ⟨expected, actual⟩
  | _ => none

def crashed (c : Crash) : Outcome := .failure ("Engine panicked: " ++ c.text) (some c.text)

def conclude (b : Bench) (t : FileTree) (file : TemplateFile) (fixture : Path) (reply : Reply)
    (elapsed : Float) : Evaluation :=
  match reply with
  | .done output =>
    let count := output.recordCount
    let mismatch := if b.checkExpected then mismatch? t fixture count else none
    ⟨⟨file, some fixture, .success count elapsed, mismatch⟩, some output⟩
  | .failed e =>
    let trace := e.category.name ++ " error: " ++ e.message
    ⟨⟨file, some fixture, .failure e.message (some trace), none⟩, none⟩
  | .crashed c => ⟨⟨file, none, crashed c, none⟩, none⟩

/-- Evaluates a template whose engine call takes the given time. -/
def evaluate (b : Bench) (t : FileTree) (elapsed : Float) (file : TemplateFile) : Evaluation :=
  match b.prepare t file with
  | .settled fixture outcome => ⟨⟨file, fixture, outcome, none⟩, none⟩
  | .ready fixture source template =>
    b.conclude t file fixture (b.engine.apply source template) elapsed

end Bench

end TemplateBench
