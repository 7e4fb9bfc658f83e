import TemplateBench.Text.Lines

/-!
Paths.

A path is a text that slashes cut into steps. Empty steps and steps `.` lead nowhere, save a `.` at
the very beginning.

* `Path.join` puts one path behind another; an absolute path replaces what comes before it.
* `Path.ancestors` lists a path and everything above it, from the inside out.
* `Path.fileName?` is the last step, and `Path.withExtension` changes what follows its last point.
-/
namespace TemplateBench

structure Path where
  text : String
  deriving DecidableEq, Repr, Inhabited

namespace Path
open Text

def isAbsolute (p : Path) : Bool := p.text.toList.head? == some '/'

/-! ## Joining -/

/-- A slash is put between the two unless the left one is empty or ends in one. -/
def join (base p : Path) : Path :=
  if p.isAbsolute then p
  else if base.text.toList.getLast?.all (· == '/') then ⟨base.text ++ p.text⟩
  else ⟨base.text ++ "/" ++ p.text⟩

/-- A path made absolute by putting it behind `base`, unless it is absolute already. -/
def anchor (base p : Path) : Path := if p.isAbsolute then p else base.join p

/-! ## Steps -/

/-- A step that leads nowhere. -/
def isIdle (step : List Char) : Bool := step == [] || step == ['.']

/-- A path as its beginning, which is the root, a leading `.` or nothing, and the steps after it in
reverse order, beginning with one that leads somewhere. -/
structure Steps where
  start : List Char
  inward : List (List Char)
  deriving DecidableEq, Repr, Inhabited

def steps (p : Path) : Steps :=
  let build (start rest : List Char) : Steps :=
    ⟨start, (splitOn '/' rest).reverse.dropWhile isIdle⟩
  match p.text.toList with
  | '/' :: rest => build ['/'] rest
  | ['.'] => ⟨['.'], []⟩
  | '.' :: '/' :: rest => build ['.'] ('/' :: rest)
  | cs => build [] cs

/-- Steps at the end that lead nowhere are left out. -/
def ofSteps (start : List Char) (inward : List (List Char)) : Path :=
  ⟨String.ofList (start ++ Text.join ['/'] (inward.dropWhile isIdle).reverse)⟩

/-- The paths above given steps. -/
def above (start : List Char) : List (List Char) → List Path
  | [] => if start = ['.'] then [⟨""⟩] else []
  | step :: outer =>
    if isIdle step then above start outer else ofSteps start outer :: above start outer

/-- The path itself and all paths above it, the nearest first. -/
def ancestors (p : Path) : List Path := p :: above p.steps.start p.steps.inward

def parent? (p : Path) : Option Path := (above p.steps.start p.steps.inward).head?

/-! ## File names -/

def fileName? (p : Path) : Option String :=
  match p.steps.inward with
  | [] => none
  | step :: _ => if step = ['.', '.'] then none else some (String.ofList step)

/-- A file name up to its last point; a point that it begins with does not count. -/
def stem (name : List Char) : List Char :=
  match name.reverse.dropWhile (· != '.') with
  | [] | [_] => name
  | _ :: before => before.reverse

def withExtension (p : Path) (extension : String) : Path :=
  match p.fileName? with
  | none => p
  | some name =>
    ofSteps p.steps.start ((stem name.toList ++ '.' :: extension.toList) :: p.steps.inward.tail)

end Path

end TemplateBench
