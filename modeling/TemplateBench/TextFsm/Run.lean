import TemplateBench.TextFsm.Template
import TemplateBench.TextFsm.Cell

/-!
Running a template over a text.

* A `Run` is the state, one cell per value and the rows recorded so far.
* `Run.checkLine` tries the rules of the state in order; `Run.record` appends a row.
* `Template.parse` starts in `Start`, stops in `End` or `EOF`, and records what is pending when the
  text runs out, unless the template stops in `End` or declares `EOF`.
-/
namespace TemplateBench.TextFsm
open Text

structure Run where
  state : String
  cells : List Cell
  rows : List (List Json)
  deriving Repr, Inhabited

/-- A rule rejected an input line. -/
structure Rejection where
  message : Option String
  ruleLine : Nat
  line : String
  deriving DecidableEq, Repr, Inhabited

def Rejection.text (r : Rejection) : String :=
  let tail := " Rule Line: " ++ toString r.ruleLine ++ ". Input Line: " ++ r.line ++ "."
  match r.message with
  | some message => "Error: " ++ message ++ "." ++ tail
  | none => "State Error raised." ++ tail

def Rejection.report (r : Rejection) : EngineError := ⟨.parse, r.text⟩

/-! ## Columns -/

/-- Fills a column from the top down to the first cell that is not empty. -/
def fillDown (column : Nat) (value : Json) : List (List Json) → List (List Json)
  | [] => []
  | row :: rest =>
    if isEmptyCell row[column]? then row.set column value :: fillDown column value rest
    else row :: rest

/-- Fills a column from the last row upwards to the first cell that is not empty. -/
def fillUp (column : Nat) (value : Json) (rows : List (List Json)) : List (List Json) :=
  (fillDown column value rows.reverse).reverse

namespace Run

def start (t : Template) : Run := ⟨"Start", t.values.map fun _ => {}, []⟩

/-! ## Records -/

def clear (t : Template) (run : Run) : Run :=
  { run with cells := List.zipWith Cell.clear t.values run.cells }

def clearAll (t : Template) (run : Run) : Run :=
  { run with cells := List.zipWith Cell.clearAll t.values run.cells }

/-- All cells as a record takes them, unless one refuses. -/
def saveCells : List Declaration → List Cell → Option (List Cell)
  | d :: ds, cell :: cells => do return (← cell.save? d) :: (← saveCells ds cells)
  | _, _ => some []

/-- Unset and the empty list, not the empty text: a row of nothing else is not recorded. -/
def isVoid : Option Json → Bool
  | none => true
  | some .null => true
  | some (.array items) => items.isEmpty
  | some _ => false

def rowCell : Option Json → Json
  | none => .string ""
  | some .null => .string ""
  | some value => value

/-- Appends a row. A refused record clears the cells, and a void one leaves them. -/
def record (t : Template) (run : Run) : Run :=
  if t.values.isEmpty then run
  else
    match saveCells t.values run.cells with
    | none => run.clear t
    | some cells =>
      let row := cells.map (·.current)
      if row.all isVoid then { run with cells }
      else clear t { run with cells, rows := run.rows ++ [row.map rowCell] }

/-! ## Lines -/

/-- Gives a capture to the value in a column. -/
def assign (d : Declaration) (column : Nat) (captured : Option String) (run : Run) : Run :=
  let cells := run.cells.modify column (Cell.assign d captured)
  let current := (cells[column]?).bind (·.current)
  if d.has .fillup && !isEmptyCell current then
    { run with cells, rows := fillUp column (current.getD .null) run.rows }
  else { run with cells }

/-- Gives a capture to the value of that name, if there is one. -/
def assignNamed (t : Template) (run : Run) (group : String × Option String) : Run :=
  match t.values.findIdx? (·.name == group.1) with
  | none => run
  | some column =>
    match t.values[column]? with
    | some d => run.assign d column group.2
    | none => run

def applyRecordOp (t : Template) (op : RecordOp) (run : Run) : Run :=
  match op with
  | .record => run.record t
  | .clear => run.clear t
  | .clearAll => run.clearAll t
  | .noRecord => run

/-- The state that a target names. -/
def moveTo (t : Template) (target : Option String) (run : Run) : Run :=
  match target with
  | none => run
  | some target =>
    if t.states.any (·.1 == target) then { run with state := target }
    else { run with state := if target == "EOF" then "EOF" else "End" }

/-- Captures and record operator of a rule that matches a line. -/
def applyRule (t : Template) (rule : Rule) (line : List Char) (m : Regex.Match) (run : Run) : Run :=
  applyRecordOp t rule.action.recordOp
    ((rule.regex.namedGroups line m).foldl (assignNamed t) run)

/-- Tries rules on a line until one matches that does not go on. -/
def tryRules (t : Template) (line : List Char) : List Rule → Run → Except Rejection Run
  | [], run => .ok run
  | rule :: rest, run =>
    match rule.regex.find? line with
    | none => tryRules t line rest run
    | some m =>
      let run := applyRule t rule line m run
      match rule.action.lineOp with
      | .reject => .error ⟨rule.action.target, rule.lineNumber, String.ofList line⟩
      | .resume => tryRules t line rest run
      | .next => .ok (moveTo t rule.action.target run)

def checkLine (t : Template) (line : List Char) (run : Run) : Except Rejection Run :=
  match t.states.lookup run.state with
  | none => .ok run
  | some rules => tryRules t line rules run

/-- Reads lines up to the end or to a stop. -/
def readLines (t : Template) : List (List Char) → Run → Except Rejection Run
  | [], run => .ok run
  | line :: rest, run => do
    let run ← checkLine t line run
    if isStop run.state then return run else readLines t rest run

/-- The record that is saved when the text runs out. -/
def finish (t : Template) (run : Run) : Run :=
  if run.state != "End" && !t.states.any (·.1 == "EOF") then run.record t else run

end Run

/-- Runs the template over a text. -/
def Template.parse (t : Template) (text : String) : Except Rejection Table := do
  let run ← Run.readLines t (lines text.toList) (Run.start t)
  return ⟨t.header, (run.finish t).rows⟩

/-- Compiles a template and runs it. -/
def process (source template : String) : Except EngineError Output := do
  let t ← (Template.compile template).mapError TemplateError.report
  return .table (← (t.parse source).mapError Rejection.report)

end TemplateBench.TextFsm
