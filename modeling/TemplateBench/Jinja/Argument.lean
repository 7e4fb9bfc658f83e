import TemplateBench.Jinja.Operator

/-!
Arguments of filters, tests, functions and macros.
-/
namespace TemplateBench.Jinja

structure Arguments where
  positional : List Value := []
  named : List (String × Value) := []

instance : Inhabited Arguments := ⟨{}⟩

namespace Arguments

/-- The positional arguments of a callee that takes between `low` and `high` of them, and no named
ones. Named ones stand together for one positional argument more, of a type that fits nowhere. -/
def between (low high : Nat) (a : Arguments) : Outcome (List Value) :=
  let count := a.positional.length + (if a.named.isEmpty then 0 else 1)
  if count > high then .error .tooManyArguments
  else if count < low then .error .missingArgument
  else if a.named.isEmpty then .ok a.positional
  else invalid

/-- Positional arguments of a callee that takes named ones too. -/
def atMost (high : Nat) (a : Arguments) : Outcome (List Value) :=
  if a.positional.length > high then .error .tooManyArguments else .ok a.positional

/-- No named arguments but the given ones may stand. -/
def onlyNamed (names : List String) (a : Arguments) : Outcome Unit :=
  if a.named.all fun (n, _) => names.contains n then .ok () else .error .tooManyArguments

def named? (name : String) (a : Arguments) : Option Value :=
  (a.named.lookup name).filter (!·.isAbsent)

end Arguments

/-! ## Types of arguments -/

namespace Value

/-- A text; other values are not taken for one. -/
def asText : Value → Outcome String
  | .string s _ => .ok s
  | _ => invalid

def asBool : Value → Outcome Bool
  | .bool b => .ok b
  | _ => invalid

def asInt (v : Value) : Outcome Int :=
  match v.int? with
  | some n => .ok n
  | none => invalid

def asNat (v : Value) : Outcome Nat := do
  let n ← v.asInt
  if n < 0 then invalid else return n.toNat

def asItems (v : Value) : Outcome (List Value) :=
  match v.items? with
  | some items => .ok items
  | none => invalid

/-- An argument that may be left out, or be undefined or none. -/
def optional {α : Type} (read : Value → Outcome α) : Option Value → Outcome (Option α)
  | none => .ok none
  | some v => if v.isAbsent then .ok none else some <$> read v

end Value

end TemplateBench.Jinja
