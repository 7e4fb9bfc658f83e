import TemplateBench.Files.Tree

/-!
Fixtures: recorded outputs, kept in one folder per command at `<root>/<vendor>/<folder>`.

`Fixtures.locate` first looks into the folder named like the command. Then it goes through the
other folders of the vendor by name and takes the first that holds a fixture and whose name contains
the command or is contained in it.
-/
namespace TemplateBench
open Text

structure Fixtures where
  root : Path
  extension : String
  deriving DecidableEq, Repr, Inhabited

def sortedNames (names : List String) : List String := names.mergeSort (· ≤ ·)

/-- One of two texts contains the other. -/
def overlaps (a b : String) : Bool := contains a.toList b.toList || contains b.toList a.toList

namespace Fixtures

def isFixtureName (f : Fixtures) (name : String) : Bool :=
  endsWith name.toList ('.' :: f.extension.toList)

/-- The first fixture of a folder by name. -/
def firstIn (f : Fixtures) (t : FileTree) (folder : Path) : Option Path :=
  match t.list folder with
  | .error _ => none
  | .ok names =>
    ((sortedNames names).find? fun name =>
      t.isFile (folder.join ⟨name⟩) && f.isFixtureName name).map fun name => folder.join ⟨name⟩

/-- The first fixture of the folders whose names overlap the command. -/
def nearby (f : Fixtures) (t : FileTree) (vendorFolder : Path) (command : String) :
    Option Path :=
  match t.list vendorFolder with
  | .error _ => none
  | .ok names =>
    (sortedNames names).findSome? fun name =>
      let folder := vendorFolder.join ⟨name⟩
      if t.isFolder folder && overlaps name command then f.firstIn t folder else none

/-- A blank command has no fixture. -/
def locate (f : Fixtures) (t : FileTree) (vendor command : String) : Option Path :=
  if isBlankText command then none
  else
    let folder := f.root.join ⟨vendor⟩
    (f.firstIn t (folder.join ⟨command⟩)).or (f.nearby t folder command)

end Fixtures

/-- The file beside a fixture that holds the records expected of it. -/
def sidecar? (t : FileTree) (fixture : Path) : Option Path :=
  [fixture.withExtension "yml", fixture.withExtension "yaml"].find? t.isFile

end TemplateBench
