import TemplateBench.Batch.Printout
import TemplateBench.Batch.Run
import TemplateBench.Command.Transcript
import TemplateBench.Suite.Discovery

/-!
The commands that verify a suite of templates: `run` evaluates them all and sums up,
`list-templates` lists them, `locate` shows the fixture of a command, and `inspect` shows the
evaluation of a template in detail.

How templates are evaluated is left open, so that the time each one takes can be measured.
-/
namespace TemplateBench.Verify
open Command

/-! ## Commands -/

inductive Task
  | run (filter : Option String) (execution : Option Execution) (workers : Option Nat)
      (checkExpected : Bool) (output : Option Path)
  | listTemplates (filter : Option String)
  | locate (command : String)
  | inspect (template : String)
  deriving DecidableEq, Repr, Inhabited

/-- What the command line says in place of the settings file. -/
structure Overrides where
  templateFolder : Option Path := none
  fixtureFolder : Option Path := none
  vendor : Option String := none
  front : Option String := none
  mode : Option String := none
  deriving DecidableEq, Repr, Inhabited

structure Request where
  settingsFile : Option Path
  overrides : Overrides
  task : Task
  deriving DecidableEq, Repr, Inhabited

private def general : List Opt := [
  ⟨"config", some 'c', true⟩, ⟨"template-dir", none, true⟩, ⟨"fixture-dir", none, true⟩,
  ⟨"vendor", none, true⟩, ⟨"prefix", none, true⟩, ⟨"mode", some 'm', true⟩]

private def filterOption : Opt := ⟨"filter", some 'f', true⟩

/-- Each command with its options. -/
def options : List (String × List Opt) := [
  ("run", [filterOption, ⟨"execution", some 'x', true⟩, ⟨"max-workers", some 'j', true⟩,
    ⟨"check-expected", none, false⟩, ⟨"output", some 'o', true⟩]),
  ("list-templates", [filterOption]),
  ("locate", []),
  ("inspect", [])]

/-- A number of workers, with or without a plus sign. -/
private def count? (s : String) : Option Nat :=
  let ds := match s.toList with
    | '+' :: ds => ds
    | ds => ds
  (Decimal.readNat? 10 ds).filter (· < 18446744073709551616)

private def Task.read (command : String) (a : Arguments) : Usage Task :=
  match command with
  | "run" => do
    a.noWords
    let execution ← a.parsed? "execution" Execution.ofName?
    let workers ← a.parsed? "max-workers" count?
    return .run (a.value? "filter") execution workers (a.has "check-expected") (← a.path? "output")
  | "list-templates" => do
    a.noWords
    return .listTemplates (a.value? "filter")
  | "locate" => return .locate (← a.word "COMMAND")
  | _ => return .inspect (← a.word "TEMPLATE")

def Request.read (args : List String) : Usage Request := do
  let line ← Line.read general options args
  let task ← Task.read line.command line.behind
  return {
    settingsFile := ← line.path? "config"
    overrides := {
      templateFolder := ← line.path? "template-dir"
      fixtureFolder := ← line.path? "fixture-dir"
      vendor := line.value? "vendor"
      front := line.value? "prefix"
      mode := line.value? "mode" }
    task }

/-! ## Settings -/

def Overrides.apply (o : Overrides) (s : Settings) : Settings :=
  { s with
    templateFolder := o.templateFolder.getD s.templateFolder
    fixtureFolder := o.fixtureFolder.getD s.fixtureFolder
    vendor := o.vendor.getD s.vendor
    front := o.front.getD s.front
    mode := o.mode.getD s.mode }

/-- The settings of a file that is named, or of one found above the current folder, or else the
defaults; the command line then overrides them. -/
def Request.settings (r : Request) (t : FileTree) : Except Complaint Settings :=
  match r.settingsFile with
  | some path =>
    match Settings.load t path with
    | .ok s => .ok (r.overrides.apply s)
    | .error p => .error (.problem (some ("Failed to load config '" ++ path.text ++ "'")) p)
  | none =>
    match Settings.discover t t.current with
    | .ok s => .ok (r.overrides.apply (s.getD {}))
    | .error p => .error (.problem none p)

/-- The settings with what the options of `run` say. -/
private def forRun (s : Settings) (execution : Option Execution) (workers : Option Nat)
    (checkExpected : Bool) (output : Option Path) : Settings :=
  { s with
    execution := execution.getD s.execution
    maxWorkers := workers.or s.maxWorkers
    checkExpected := s.checkExpected || checkExpected
    output := output.or s.output }

/-! ## Texts -/

private def inspection (file : TemplateFile) (e : Bench.Evaluation) : List String :=
  let fixture := match e.report.fixture with
    | some path => path.text
    | none => "none"
  let outcome := match e.report.outcome with
    | .success count elapsed =>
      let fields := match e.output.bind Output.table? with
        | some table => ["Fields:   " ++ ", ".intercalate table.header]
        | none => []
      let first := match e.output.map Output.records with
        | some (record :: _) => ["First record:", record.pretty]
        | _ => []
      ["Records:  " ++ Decimal.natText count, "Elapsed:  " ++ milliseconds elapsed] ++ fields ++ first
    | .failure message trace =>
      ("Error:    " ++ message) :: trace.toList.map ("Trace:\n" ++ ·)
    | .skipped reason => ["Skipped:  " ++ reason]
  let mismatch := e.report.mismatch.toList.map fun m =>
    "Expected " ++ Decimal.natText m.expected ++ " records, got " ++ Decimal.natText m.actual
  ["Template: " ++ file.path.text, "Fixture:  " ++ fixture] ++ outcome ++ mismatch ++ [""]

/-! ## Answers -/

/-- Where a command runs. -/
structure Place where
  tree : FileTree
  processors : Nat
  /-- The time that a summary file is marked with. -/
  now : String

/-- Evaluates templates with so many workers; the order is that in which they are done. -/
abbrev Evaluator (m : Type → Type) :=
  Bench → FileTree → Execution → Nat → List TemplateFile → m (List Bench.Evaluation)

/-- Evaluates every template as if it took no time. -/
def timeless : Evaluator Id := fun b t execution workers files =>
  pure (b.run t (fun _ => 0.0) execution workers files)

private def found (t : FileTree) (s : Settings) (filter : Option String) :
    Except Problem (List TemplateFile) :=
  discover t s.templateFolder s.front s.templateExtension filter

private def refuse (p : Problem) : Transcript := .failed (.problem none p)

private def countLine (files : List TemplateFile) : String :=
  "Found " ++ Decimal.natText files.length ++ " templates"

/-- The summary is printed, and written if the settings name a file for it. -/
private def conclude (place : Place) (s : Settings) (reports : List Report) : Transcript :=
  let summary : Summary := ⟨some s.mode, Statistics.ofReports reports⟩
  let result : Transcript := match s.output with
    | none => {}
    | some path =>
      match summary.save place.tree path place.now with
      | .error e =>
        .failed (.problem (some ("Failed to write summary to '" ++ path.text ++ "'")) (.file e))
      | .ok _ =>
        { lines := ["", "Summary written to " ++ path.text]
          saved := some (path, summary.file place.now) }
  result.print (reports.map Report.line ++ "" :: summary.lines)

variable {m : Type → Type} [Monad m]

private def verify (evaluate : Evaluator m) (place : Place) (s : Settings) (filter : Option String) :
    m Transcript :=
  match s.validate with
  | .error p => pure (refuse p)
  | .ok () =>
    let title := "=== " ++ s.mode ++ " Batch Testing ==="
    match found place.tree s filter with
    | .error p => pure ((refuse p).print [title])
    | .ok files => do
      let result ← match Bench.ofRegistry s Registry.builtIn with
        | .error p => pure (refuse p)
        | .ok bench => do
          let workers := s.workers place.processors
          let evaluations ← evaluate bench place.tree s.execution workers files
          pure (conclude place s (evaluations.map (·.report)))
      return result.print [title, countLine files]

private def examine (evaluate : Evaluator m) (place : Place) (s : Settings) (template : String) :
    m Transcript :=
  match found place.tree s (some template) with
  | .error p => pure (refuse p)
  | .ok files =>
    match Bench.ofRegistry s Registry.builtIn with
    | .error p => pure (refuse p)
    | .ok bench => do
      let evaluations ← evaluate bench place.tree .sequential 1 files
      return { lines := (List.zipWith inspection files evaluations).flatten }

def Task.answer (evaluate : Evaluator m) (place : Place) (s : Settings) : Task → m Transcript
  | .run filter execution workers checkExpected output =>
    verify evaluate place (forRun s execution workers checkExpected output) filter
  | .listTemplates filter =>
    match found place.tree s filter with
    | .error p => pure (refuse p)
    | .ok files => pure {
        lines := (countLine files ++ " in " ++ s.templateFolder.text) ::
          files.map fun f => "  " ++ f.fileName ++ " (" ++ f.command ++ ")" }
  | .locate command =>
    let fixtures : Fixtures := ⟨s.fixtureFolder, s.fixtureExtension⟩
    let line := match fixtures.locate place.tree s.vendor command with
      | some fixture => fixture.text
      | none => "No fixture found for '" ++ command ++ "' under " ++ s.vendorFolder.text
    pure { lines := [line] }
  | .inspect template => examine evaluate place s template

def perform (evaluate : Evaluator m) (place : Place) (args : List String) : m Transcript :=
  match Request.read args with
  | .error e => pure (.failed (.usage e))
  | .ok r =>
    match r.settings place.tree with
    | .error c => pure (.failed c)
    | .ok s => r.task.answer evaluate place s

end TemplateBench.Verify
