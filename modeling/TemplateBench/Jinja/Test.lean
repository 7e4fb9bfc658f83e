import TemplateBench.Jinja.Argument
import TemplateBench.Text.Casing

/-!
The tests of the language, as in `x is odd`.
-/
namespace TemplateBench.Jinja

/-! ## Predicates -/

private def isMultiple (v divisor : Value) : Bool :=
  match Value.pair? true v divisor with
  | some (.ints a b) => b != 0 && a % b == 0
  | some (.floats a b) => remainder a b == 0.0
  | _ => false

private def isNumber (v : Value) : Bool := v.kind == .number

private def isInteger : Value → Bool
  | .int _ => true
  | _ => false

private def isFloat : Value → Bool
  | .float _ => true
  | _ => false

private def isSafe : Value → Bool
  | .string _ safe => safe
  | _ => false

private def isParity (odd : Bool) (v : Value) : Bool := v.int?.any fun n => (n % 2 != 0) == odd

private def allCased (map : List Char → List Char) (v : Value) : Bool :=
  let cs := v.text.toList
  cs.all fun c => Text.isCased c && map [c] == [c]

/-- A predicate on the value alone. -/
private def plainTest? : String → Option (Value → Bool)
  | "undefined" => some Value.isUndefined
  | "defined" => some (!·.isUndefined)
  | "none" => some (·.kind == .none)
  | "safe" => some isSafe
  | "escaped" => some isSafe
  | "boolean" => some (·.kind == .bool)
  | "odd" => some (isParity true)
  | "even" => some (isParity false)
  | "number" => some isNumber
  | "integer" => some isInteger
  | "int" => some isInteger
  | "float" => some isFloat
  | "string" => some (·.kind == .string)
  | "sequence" => some (·.kind == .sequence)
  | "iterable" => some (·.items?.isSome)
  | "mapping" => some (·.kind == .map)
  | "lower" => some (allCased Text.lower)
  | "upper" => some (allCased Text.upper)
  | "true" => some fun v => v.kind == .bool && v.isTrue
  | "false" => some fun v => v.kind == .bool && !v.isTrue
  | _ => none

/-- A predicate on the value and one argument. -/
private def binaryTest? : String → Option (Value → Value → Bool)
  | "divisibleby" => some isMultiple
  | "startingwith" => some fun v w => Text.startsWith v.text.toList w.text.toList
  | "endingwith" => some fun v w => Text.endsWith v.text.toList w.text.toList
  | "eq" | "equalto" | "==" => some Value.same
  | "ne" | "!=" => some fun v w => !v.same w
  | "lt" | "lessthan" | "<" => some fun v w => v.compare w == .lt
  | "le" | "<=" => some fun v w => v.compare w != .gt
  | "gt" | "greaterthan" | ">" => some fun v w => v.compare w == .gt
  | "ge" | ">=" => some fun v w => v.compare w != .lt
  | "sameas" => some fun v w => v.kind == w.kind && v.same w
  | "in" => some fun v w => (Value.contains w v).toOption.getD false
  | _ => none

def isPlainTestName (name : String) : Bool := (plainTest? name).isSome || (binaryTest? name).isSome

/-- Runs a test; `knowsFilter` says which filters there are. -/
def runTest (knowsFilter : String → Bool) (name : String) (v : Value) (a : Arguments) : Outcome Bool :=
  match plainTest? name with
  | some test => do
    let _ ← a.between 0 0
    return test v
  | none => do
    match binaryTest? name with
    | some test =>
      match ← a.between 1 1 with
      | [w] => return test v w
      | _ => throw .missingArgument
    | none =>
      if name = "filter" then
        let _ ← a.between 0 0
        return knowsFilter v.text
      else if name = "test" then
        let _ ← a.between 0 0
        return isPlainTestName v.text || v.text = "filter" || v.text = "test"
      else throw .unknownTest

end TemplateBench.Jinja
