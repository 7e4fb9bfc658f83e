import TemplateBench.TextFsm.Declaration
import TemplateBench.Json.Value

/-!
What a run keeps for one value between two records.

* `Cell.assign` takes a capture, `Cell.clear` and `Cell.clearAll` forget, `Cell.save` prepares the
  cell of a record or refuses it. Each goes through the options in their declared order.
-/
namespace TemplateBench.TextFsm

structure Cell where
  /-- What the next record holds. -/
  current : Option Json := none
  /-- The last capture of a value that fills down. -/
  kept : Option Json := none
  /-- The captures of a list value. -/
  items : List Json := []
  deriving Repr, Inhabited

/-- Unset, the empty text and the empty list. -/
def isEmptyCell : Option Json → Bool
  | none => true
  | some .null => true
  | some (.string s) => s.isEmpty
  | some (.array items) => items.isEmpty
  | some _ => false

/-- The named groups of a nested expression in a captured text, when it has some. -/
def nestedItem? (nested : Regex) (text : String) : Option Json :=
  match nested.find? text.toList with
  | none => none
  | some m =>
    match nested.namedGroups text.toList m with
    | [] => none
    | groups => some (Json.ofMembers (groups.map fun (name, t) => (name, Json.ofOption .string t)))

/-- What a list value adds for a capture. -/
def listItem (d : Declaration) : Option String → Json
  | none => .null
  | some text => ((d.nested.bind (nestedItem? · text)).getD (.string text))

namespace Cell

/-! ## What one option does -/

def assignOption (item : Json) (cell : Cell) : ValueOption → Cell
  | .filldown => { cell with kept := cell.current }
  | .list => { cell with items := cell.items ++ [item] }
  | _ => cell

/-- A value that fills down gets its capture back, and keeps its list. -/
def clearOption (d : Declaration) (cell : Cell) : ValueOption → Cell
  | .filldown => { cell with current := cell.kept }
  | .list => if d.has .filldown then cell else { cell with items := [] }
  | _ => cell

def clearAllOption (cell : Cell) : ValueOption → Cell
  | .filldown => { cell with kept := none }
  | .list => { cell with items := [] }
  | _ => cell

def saveOption? (cell : Cell) : ValueOption → Option Cell
  | .required => if isEmptyCell cell.current then none else some cell
  | .list => some { cell with current := some (.array cell.items) }
  | _ => some cell

/-! ## Operations -/

def assign (d : Declaration) (captured : Option String) (cell : Cell) : Cell :=
  d.options.foldl (assignOption (listItem d captured)) { cell with current := captured.map .string }

def clear (d : Declaration) (cell : Cell) : Cell :=
  d.options.foldl (clearOption d) { cell with current := none }

def clearAll (d : Declaration) (cell : Cell) : Cell :=
  d.options.foldl clearAllOption { cell with current := none }

/-- The cell as a record takes it, or `none` if a required value is empty. -/
def save? (d : Declaration) (cell : Cell) : Option Cell := d.options.foldlM saveOption? cell

end Cell

end TemplateBench.TextFsm
