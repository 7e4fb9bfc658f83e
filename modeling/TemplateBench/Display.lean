import TemplateBench.Table
import TemplateBench.Json.Printer

/-!
Tables as text.

`Output.render` shows a table with one bracketed row a line, or with one line a field, or, without
a variant, as JSON records. A text is shown as it is.
-/
namespace TemplateBench

inductive Variant
  /-- The header, then one bracketed row per record. -/
  | table
  /-- One block per record with a line per field. -/
  | detail
  deriving DecidableEq, Repr, Inhabited

def Variant.name : Variant → String
  | .table => "table"
  | .detail => "detail"

/-! ## Cells -/

/-- A text stands for itself, any other value for its JSON. -/
def cellText : Json → String
  | .string s => s
  | v => v.compact

def bracketed (items : List String) : String := "[" ++ String.intercalate ", " items ++ "]"

/-! ## Tables -/

def Table.headerLine (t : Table) : String := "Header: " ++ bracketed t.header ++ "\n"

def Table.renderRows (t : Table) : String :=
  t.headerLine ++ "\nData:\n" ++
    String.join (t.rows.map fun row => bracketed (row.map cellText) ++ "\n")

def renderField (name : String) (cell : Json) : String :=
  "  " ++ name ++ ": " ++ cellText cell ++ "\n"

def Table.renderBlocks (t : Table) : String :=
  t.headerLine ++ String.join ((t.rows.zipIdx 1).map fun (row, number) =>
    "\nRecord " ++ toString number ++ ":\n" ++
      String.join (List.zipWith renderField t.header row))

def Output.render (o : Output) (variant : Option Variant) : String :=
  match o, variant with
  | .text s, _ => s
  | .table t, some .table => t.renderRows
  | .table t, some .detail => t.renderBlocks
  | .table t, none => (Json.array t.records).pretty

/-- An output as a value: its kind beside its content. -/
def Output.toJson : Output → Json
  | .table t => .object [
      ("type", .string "table"),
      ("data", .object [("header", Json.strings t.header), ("rows", .array (t.rows.map .array))])]
  | .text s => .object [("type", .string "text"), ("data", .string s)]

end TemplateBench
