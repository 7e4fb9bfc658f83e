import TemplateBench.Files.Tree
import TemplateBench.Registry

/-!
What keeps a batch from being set up or reported.

`Problem.cause?` is what lies behind a problem, where its own text only passes that on.
-/
namespace TemplateBench

inductive Problem
  | file (e : FileError)
  /-- The text of a settings file is no TOML, or has a setting of the wrong kind. -/
  | malformedSettings
  | unreadableSettings (path : Path) (e : FileError)
  | emptySetting (field : String)
  | leadingPoint (field value : String)
  | noWorkers
  /-- The expected output of a fixture is no YAML. -/
  | malformedExpectation (path : Path) (e : Yaml.Malformed)
  | noTemplates (folder : Path) (front : String)
  | noMatch (filter : String)
  | unknownMode (e : RegistryError)
  deriving DecidableEq, Repr, Inhabited

namespace Problem

def malformedToml : String := "<toml error>"

private def settings (text : String) : String := "Configuration error: " ++ text

def message : Problem → String
  | .file e => "I/O error: " ++ e.message
  | .malformedSettings => "TOML error: " ++ malformedToml
  | .unreadableSettings path e =>
    settings ("Failed to read config file " ++ path.text ++ ": " ++ e.message)
  | .emptySetting field => settings (field ++ " cannot be empty")
  | .leadingPoint field value => settings (field ++ " must not start with '.', got '" ++ value ++ "'")
  | .noWorkers => settings "max_workers must be > 0"
  | .malformedExpectation path e =>
    settings ("Invalid expected output " ++ path.text ++ ": " ++ e.message)
  | .noTemplates folder front => "No templates matching '" ++ front ++ "*' found in " ++ folder.text
  | .noMatch filter => "No template matching '" ++ filter ++ "'"
  | .unknownMode e => e.message

def cause? : Problem → Option String
  | .file e => some e.message
  | .malformedSettings => some malformedToml
  | _ => none

/-- The problem and its cause, a line each. -/
def chain (p : Problem) : String :=
  p.message ++ match p.cause? with
    | some cause => "\ncaused by: " ++ cause
    | none => ""

end Problem

end TemplateBench
