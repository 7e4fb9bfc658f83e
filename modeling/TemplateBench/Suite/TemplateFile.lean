import TemplateBench.Files.Path

/-!
Template files, named `<prefix>_<command>.<extension>`.

`commandName` takes the ending and the prefix away; what it leaves is never empty unless the name
has nothing before its ending.
-/
namespace TemplateBench

/-- A template file that a batch applies. -/
structure TemplateFile where
  fileName : String
  /-- The command whose output the template reads. -/
  command : String
  path : Path
  deriving DecidableEq, Repr, Inhabited

/-- The file name without its ending `.<extension>`, if it has it. -/
def withoutExtension (fileName extension : String) : List Char :=
  ((Text.dropBack extension.toList fileName.toList).bind (Text.dropBack ['.'])).getD fileName.toList

/-- A name with nothing behind the prefix keeps the prefix. -/
def commandName (fileName front extension : String) : String :=
  let name := withoutExtension fileName extension
  String.ofList <| match Text.dropFront (front.toList ++ ['_']) name with
    | none | some [] => name
    | some command => command

/-- The template file at a path; a path such as `/` or `a/..` names no file. -/
def TemplateFile.ofPath? (path : Path) (front extension : String) : Option TemplateFile :=
  path.fileName?.map fun name => ⟨name, commandName name front extension, path⟩

end TemplateBench
