import TemplateBench.Suite.Problem
import TemplateBench.Suite.TemplateFile

/-!
Finding the template files of a batch.

* `templateFiles` lists the files of a folder named `<prefix>….<extension>`, by file name.
* `discover` narrows the list with a filter: one that equals a file name or a command selects that
  template alone, any other one all templates whose file name contains it.
-/
namespace TemplateBench
open Text

/-- The name begins with the prefix and ends in the extension behind a point. -/
def isTemplateName (front extension name : String) : Bool :=
  startsWith name.toList front.toList && endsWith name.toList ('.' :: extension.toList)

private def byName (files : List TemplateFile) : List TemplateFile :=
  files.mergeSort fun a b => a.fileName ≤ b.fileName

/-- A folder that cannot be read has no templates. -/
def templateFiles (t : FileTree) (folder : Path) (front extension : String) : List TemplateFile :=
  match t.list folder with
  | .error _ => []
  | .ok names =>
    byName <| names.filterMap fun name =>
      let path := folder.join ⟨name⟩
      if t.isFile path && isTemplateName front extension name then
        some ⟨name, commandName name front extension, path⟩
      else none

def TemplateFile.isCalled (f : TemplateFile) (name : String) : Bool :=
  f.fileName == name || f.command == name

def select (files : List TemplateFile) (filter : String) : Except Problem (List TemplateFile) :=
  match files.find? (·.isCalled filter) with
  | some file => .ok [file]
  | none =>
    match files.filter fun f => contains filter.toList f.fileName.toList with
    | [] => .error (.noMatch filter)
    | found => .ok found

def discover (t : FileTree) (folder : Path) (front extension : String) (filter : Option String) :
    Except Problem (List TemplateFile) :=
  match templateFiles t folder front extension, filter with
  | [], _ => .error (.noTemplates folder front)
  | files, none => .ok files
  | files, some filter => select files filter

end TemplateBench
