import TemplateBench.Suite.Fixture
import TemplateBench.Suite.Problem
import TemplateBench.Yaml.Resolve

/-!
How many records a sidecar expects: the length of its list, or of the list `parsed_sample` in its
mapping. Any other document expects no count.
-/
namespace TemplateBench

def declaredCount : Json → Option Nat
  | .array records => some records.length
  | .object members =>
    match members.lookup "parsed_sample" with
    | some (.array records) => some records.length
    | _ => none
  | _ => none

def expectedCount (t : FileTree) (path : Path) : Except Problem (Option Nat) :=
  match t.read path with
  | .error e => .error (.file e)
  | .ok text =>
    match Yaml.read text with
    | .ok v => .ok (declaredCount v)
    | .error e => .error (.malformedExpectation path e)

end TemplateBench
