import TemplateBench.Display
import TemplateBench.Engine

/-!
Modes: labels under which engines are found, each with the variant in which its tables are shown.

A registry keeps its modes in the order in which their labels were first registered; registering a
label again replaces its mode and keeps its place.
-/
namespace TemplateBench

/-! ## Modes -/

structure Mode where
  engine : Engine
  variant : Option Variant

def Mode.kind (m : Mode) : EngineKind := m.engine.kind

private def kindWord : EngineKind → String
  | .textFsm => "TextFsm"
  | .ttp => "Ttp"
  | .jinja2 => "Jinja2"

private def variantWord : Option Variant → String
  | none => "None"
  | some .table => "Some(Table)"
  | some .detail => "Some(Detail)"

/-- A mode as it is shown to someone looking for a fault. -/
def Mode.shown (m : Mode) : String :=
  "ModeEntry \x7b kind: " ++ kindWord m.kind ++ ", engine: " ++ Text.shown m.engine.name ++
    ", variant: " ++ variantWord m.variant ++ " \x7d"

/-! ## Errors -/

inductive RegistryError
  | invalidLabel (label : String)
  | unknownMode (label : String) (available : List String)
  deriving DecidableEq, Repr, Inhabited

def RegistryError.message : RegistryError → String
  | .invalidLabel label => "Mode label '" ++ label ++ "' must be non-empty and contain no whitespace"
  | .unknownMode label available =>
    "Unknown mode '" ++ label ++ "'. Available modes: " ++ ", ".intercalate available

/-! ## Registries -/

structure Registry where
  modes : List (String × Mode) := []

instance : Inhabited Registry := ⟨{}⟩

/-- A label is a text without white space, and not empty. -/
def isLabel (label : String) : Bool := label != "" && !label.toList.any Text.isBlank

/-- The mode of a label is replaced in its place, or added at the end. -/
def put (label : String) (m : Mode) : List (String × Mode) → List (String × Mode)
  | [] => [(label, m)]
  | (l, old) :: rest => if l = label then (l, m) :: rest else (l, old) :: put label m rest

namespace Registry

def empty : Registry := {}

def register (r : Registry) (label : String) (engine : Engine) (variant : Option Variant) :
    Except RegistryError Registry :=
  if isLabel label then .ok ⟨put label ⟨engine, variant⟩ r.modes⟩ else .error (.invalidLabel label)

def labels (r : Registry) : List String := r.modes.map (·.1)

def size (r : Registry) : Nat := r.modes.length

def isEmpty (r : Registry) : Bool := r.modes.isEmpty

def get? (r : Registry) (label : String) : Option Mode := r.modes.lookup label

def resolve (r : Registry) (label : String) : Except RegistryError Mode :=
  match r.get? label with
  | some m => .ok m
  | none => .error (.unknownMode label r.labels)

/-- The five built-in modes. -/
def builtIn : Registry := ⟨[
  ("TextFSM_Table", ⟨EngineKind.textFsm.engine, some .table⟩),
  ("TextFSM_Detail", ⟨EngineKind.textFsm.engine, some .detail⟩),
  ("TTP_Table", ⟨EngineKind.ttp.engine, some .table⟩),
  ("TTP_Detail", ⟨EngineKind.ttp.engine, some .detail⟩),
  ("Jinja2", ⟨EngineKind.jinja2.engine, none⟩)]⟩

end Registry

/-! ## Examples -/

/-- The neighbors example of an engine that parses, in the variant that it is shown in. -/
def neighborExample : EngineKind → Variant → Option (String × String)
  | .textFsm, .table => some (Example.neighborTable, Example.neighborTableMachine)
  | .textFsm, .detail => some (Example.neighborBlocks, Example.neighborBlocksMachine)
  | .ttp, .table => some (Example.neighborTable, Example.neighborTablePattern)
  | .ttp, .detail => some (Example.neighborBlocks, Example.neighborBlocksPattern)
  | .jinja2, _ => none

/-- A mode with a variant has the neighbors example, any other the one of its engine. -/
def Mode.sample (m : Mode) : String × String :=
  (m.variant.bind (neighborExample m.kind)).getD m.engine.sample

end TemplateBench
