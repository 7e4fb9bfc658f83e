import TemplateBench.Suite.Problem
import TemplateBench.Toml.Reader

/-!
Settings of a batch, read from a file `template-harness.toml`.

* `Settings.read` takes a document; what it does not set keeps its default.
* `Settings.discover` uses the file in the nearest folder at or above the place where it starts, and
  anchors relative paths at that folder.
* `Settings.validate` finds the first setting that no batch can run with.
-/
namespace TemplateBench

/-! ## Settings -/

/-- One template after the other, or several at a time. -/
inductive Execution
  | sequential
  | pooled
  deriving DecidableEq, Repr, Inhabited

def Execution.name : Execution → String
  | .sequential => "sequential"
  | .pooled => "pooled"

def Execution.ofName? (name : String) : Option Execution :=
  [Execution.sequential, .pooled].find? (·.name == name)

structure Settings where
  templateFolder : Path := ⟨"templates"⟩
  fixtureFolder : Path := ⟨"tests"⟩
  vendor : String := "cisco_ios"
  /-- What the file names of the templates begin with. -/
  front : String := "cisco_ios"
  templateExtension : String := "textfsm"
  fixtureExtension : String := "raw"
  mode : String := "TextFSM_Table"
  execution : Execution := .sequential
  /-- As many as there are processors, if it is not set. -/
  maxWorkers : Option Nat := none
  checkExpected : Bool := false
  output : Option Path := none
  deriving DecidableEq, Repr, Inhabited

namespace Settings

def workers (s : Settings) (processors : Nat) : Nat :=
  match s.execution with
  | .sequential => 1
  | .pooled => s.maxWorkers.getD processors

def vendorFolder (s : Settings) : Path := s.fixtureFolder.join ⟨s.vendor⟩

/-- Relative paths are put behind `base`. -/
def anchor (s : Settings) (base : Path) : Settings :=
  { s with
    templateFolder := base.anchor s.templateFolder
    fixtureFolder := base.anchor s.fixtureFolder
    output := s.output.map base.anchor }

/-! ## Validation -/

private def firstError : List (Option Problem) → Except Problem Unit
  | [] => .ok ()
  | some p :: _ => .error p
  | none :: rest => firstError rest

def validate (s : Settings) : Except Problem Unit :=
  let filled (field value : String) : Option Problem :=
    if Text.isBlankText value then some (.emptySetting field) else none
  let pointless (field value : String) : Option Problem :=
    if value.toList.head? = some '.' then some (.leadingPoint field value) else none
  firstError [
    filled "vendor" s.vendor,
    filled "template_prefix" s.front,
    filled "template_extension" s.templateExtension,
    filled "fixture_extension" s.fixtureExtension,
    filled "mode" s.mode,
    pointless "template_extension" s.templateExtension,
    pointless "fixture_extension" s.fixtureExtension,
    if s.maxWorkers = some 0 then some .noWorkers else none]

/-! ## Reading -/

private def text? : Toml → Option String
  | .string s => some s
  | _ => none

private def count? : Toml → Option Nat
  | .integer n => if 0 ≤ n && n < 18446744073709551616 then some n.toNat else none
  | _ => none

private def flag? : Toml → Option Bool
  | .boolean b => some b
  | _ => none

/-- A name, or a table with that name alone, which holds nothing. -/
private def execution? : Toml → Option Execution
  | .string s => Execution.ofName? s
  | .table _ [(name, .table _ [])] | .table _ [(name, .array _ [])] => Execution.ofName? name
  | _ => none

/-- A setting of the document, or its default; one of the wrong kind is refused. -/
private def setting {α : Type} (t : Toml) (name : String) (read : Toml → Option α) (default : α) :
    Option α :=
  match t.field? name with
  | none => some default
  | some v => read v

private def ofToml? (t : Toml) : Option Settings := do
  let d : Settings := {}
  return {
    templateFolder := ⟨← setting t "template_dir" text? d.templateFolder.text⟩
    fixtureFolder := ⟨← setting t "fixture_dir" text? d.fixtureFolder.text⟩
    vendor := ← setting t "vendor" text? d.vendor
    front := ← setting t "template_prefix" text? d.front
    templateExtension := ← setting t "template_extension" text? d.templateExtension
    fixtureExtension := ← setting t "fixture_extension" text? d.fixtureExtension
    mode := ← setting t "mode" text? d.mode
    execution := ← setting t "execution" execution? d.execution
    maxWorkers := ← setting t "max_workers" (fun v => (count? v).map some) d.maxWorkers
    checkExpected := ← setting t "check_expected" flag? d.checkExpected
    output := ← setting t "output" (fun v => (text? v).map fun s => some ⟨s⟩) d.output }

def read (text : String) : Except Problem Settings :=
  match (Toml.read? text).bind ofToml? with
  | some s => .ok s
  | none => .error .malformedSettings

def load (t : FileTree) (path : Path) : Except Problem Settings :=
  match t.read path with
  | .ok text => read text
  | .error e => .error (.unreadableSettings path e)

/-! ## Discovery -/

def fileName : String := "template-harness.toml"

/-- The settings of the first folder that has a file of them. -/
def nearest (t : FileTree) : List Path → Except Problem (Option Settings)
  | [] => .ok none
  | folder :: outer =>
    let path := folder.join ⟨fileName⟩
    if t.isFile path then (load t path).map fun s => some (s.anchor folder)
    else nearest t outer

def discover (t : FileTree) (start : Path) : Except Problem (Option Settings) :=
  nearest t start.ancestors

end Settings

end TemplateBench
