import TemplateBench.Json.Value

/-!
Tables of parsed rows, and the outcome of an engine.

* `Table.records` keys each row by the header; of two columns with one name the later one counts,
  and cells beyond the shorter of row and header are dropped.
* `Output.recordCount` counts rows, or the lines of a text that hold more than white space.
-/
namespace TemplateBench

/-! ## Tables -/

structure Table where
  header : List String
  rows : List (List Json) := []
  deriving Repr, Inhabited

def Table.records (t : Table) : List Json :=
  t.rows.map fun row => Json.ofMembers (t.header.zip row)

/-! ## Outputs -/

inductive Output
  | table (t : Table)
  | text (s : String)
  deriving Repr, Inhabited

namespace Output

def recordCount : Output → Nat
  | .table t => t.rows.length
  | .text s => ((Text.lines s.toList).filter (!·.all Text.isBlank)).length

def table? : Output → Option Table
  | .table t => some t
  | .text _ => none

/-- The records of a table; a text has none. -/
def records : Output → List Json
  | .table t => t.records
  | .text _ => []

end Output

/-! ## Failures -/

/-- What an engine rejects: the template, the input, the rendering or the render context. -/
inductive Category
  | template
  | parse
  | render
  | context
  deriving DecidableEq, Repr, Inhabited

def Category.name : Category → String
  | .template => "template"
  | .parse => "parse"
  | .render => "render"
  | .context => "context"

/-- A failure as an engine reports it. -/
structure EngineError where
  category : Category
  message : String
  deriving DecidableEq, Repr, Inhabited

end TemplateBench
