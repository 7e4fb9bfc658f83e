import TemplateBench.Table
import TemplateBench.Yaml.Resolve

/-!
The context of a rendering: a mapping that is read from a YAML text. An empty text gives an empty
context, and so does a text whose value is null.
-/
namespace TemplateBench.Jinja

inductive ContextError
  | malformed (cause : Yaml.Malformed)
  | notMapping (found : Json)
  deriving Repr, Inhabited

/-- How an error speaks of a value. -/
def kindName : Json → String
  | .null => "null"
  | .bool _ => "a boolean"
  | .int _ => "a number"
  | .float _ => "a number"
  | .string _ => "a string"
  | .array _ => "a list"
  | .object _ => "a mapping"

def ContextError.message : ContextError → String
  | .malformed cause => "Invalid YAML/JSON context: " ++ cause.message
  | .notMapping found => "Render context must be a mapping, got " ++ kindName found

def ContextError.report (e : ContextError) : EngineError := ⟨.context, e.message⟩

/-- The members of the context, sorted by name. -/
def readContext (source : String) : Except ContextError (List (String × Json)) :=
  if Text.isBlankText source then .ok []
  else match Yaml.read source with
    | .error cause => .error (.malformed cause)
    | .ok (.object members) => .ok members
    | .ok .null => .ok []
    | .ok v => .error (.notMapping v)

end TemplateBench.Jinja
