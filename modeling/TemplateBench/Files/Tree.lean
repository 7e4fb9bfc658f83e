import TemplateBench.Files.Path

/-!
Trees of files and folders, and what can be asked of them and done to them.

* A path is followed step by step from the root; a relative one from the current folder.
* `FileTree.list` names the entries of a folder in the order in which the tree holds them.
* `FileTree.createFolders` makes a folder with everything above it, and `FileTree.write` puts a text
  into a file, made if it is not there.
-/
namespace TemplateBench

/-! ## Trees -/

inductive Node
  /-- A file with a text, or with bytes that are none. -/
  | file (content : Option String)
  | folder (entries : List (String × Node))
  deriving Repr, Inhabited

inductive FileError
  | missing
  | taken
  | notFolder
  | isFolder
  | notText
  deriving DecidableEq, Repr, Inhabited

def FileError.message : FileError → String
  | .missing => "No such file or directory (os error 2)"
  | .taken => "File exists (os error 17)"
  | .notFolder => "Not a directory (os error 20)"
  | .isFolder => "Is a directory (os error 21)"
  | .notText => "stream did not contain valid UTF-8"

/-- A tree seen from a folder in it, which is given by an absolute path. -/
structure FileTree where
  root : Node := .folder []
  current : Path := ⟨"/"⟩
  deriving Repr, Inhabited

/-! ## Following a path -/

/-- The entries passed on the way from the root, the last one first. -/
abbrev Trail := List (String × Node)

def Trail.node (root : Node) : Trail → Node
  | [] => root
  | (_, n) :: _ => n

def Trail.names (t : Trail) : List String := (t.map (·.1)).reverse

namespace FileTree

def walk (root : Node) : Trail → List (List Char) → Except FileError Trail
  | trail, [] => .ok trail
  | trail, step :: steps =>
    match trail.node root with
    | .file _ => .error .notFolder
    | .folder entries =>
      if Path.isIdle step then walk root trail steps
      else if step = ['.', '.'] then walk root trail.tail steps
      else match entries.lookup (String.ofList step) with
        | some n => walk root ((String.ofList step, n) :: trail) steps
        | none => .error .missing

def steps (t : FileTree) (p : Path) : List (List Char) :=
  Text.splitOn '/' (t.current.join p).text.toList

def follow (t : FileTree) (p : Path) : Except FileError Trail :=
  if p.text = "" then .error .missing else walk t.root [] (t.steps p)

/-! ## Questions -/

def node (t : FileTree) (p : Path) : Except FileError Node :=
  (t.follow p).map (·.node t.root)

def isFile (t : FileTree) (p : Path) : Bool :=
  match t.node p with
  | .ok (.file _) => true
  | _ => false

def isFolder (t : FileTree) (p : Path) : Bool :=
  match t.node p with
  | .ok (.folder _) => true
  | _ => false

def list (t : FileTree) (p : Path) : Except FileError (List String) :=
  match t.node p with
  | .ok (.folder entries) => .ok (entries.map (·.1))
  | .ok (.file _) => .error .notFolder
  | .error e => .error e

def read (t : FileTree) (p : Path) : Except FileError String :=
  match t.node p with
  | .ok (.file (some text)) => .ok text
  | .ok (.file none) => .error .notText
  | .ok (.folder _) => .error .isFolder
  | .error e => .error e

/-! ## Changes -/

end FileTree

/-- Changes the entry of a name; one that is not there starts as an empty folder. -/
def changeEntry (name : String) (f : Node → Node) : List (String × Node) → List (String × Node)
  | [] => [(name, f (.folder []))]
  | (n, node) :: rest =>
    if n = name then (n, f node) :: rest else (n, node) :: changeEntry name f rest

/-- Puts a node below another one, under the given names. -/
def Node.put (new : Node) : List String → Node → Node
  | [], _ => new
  | name :: names, .folder entries => .folder (changeEntry name (put new names) entries)
  | _ :: _, .file content => .file content

namespace FileTree

def put (t : FileTree) (names : List String) (new : Node) : FileTree :=
  { t with root := new.put names t.root }

/-- Puts a node where a path leads to nothing yet, in a folder that is there. -/
private def add (t : FileTree) (steps : List (List Char)) (new : Node) : Except FileError FileTree :=
  match steps.reverse with
  | [] => .error .missing
  | name :: outer =>
    if name = ['.'] || name = ['.', '.'] then .error .missing
    else match walk t.root [] outer.reverse with
      | .error e => .error e
      | .ok trail =>
        match trail.node t.root with
        | .file _ => .error .notFolder
        | .folder _ => .ok (t.put (trail.names ++ [String.ofList name]) new)

def createFolder (t : FileTree) (p : Path) : Except FileError FileTree :=
  match t.follow p with
  | .ok _ => .error .taken
  | .error .missing =>
    if p.text = "" then .error .missing
    else t.add ((t.steps p).reverse.dropWhile (· == [])).reverse (.folder [])
  | .error e => .error e

/-- Makes folders in turn; one that is there already is left alone. -/
private def createAll (t : FileTree) : List Path → Except FileError FileTree
  | [] => .ok t
  | p :: rest =>
    match t.createFolder p with
    | .ok t => createAll t rest
    | .error e => if e = .taken && t.isFolder p then createAll t rest else .error e

/-- Looks outward for the first folder that is there or can be made, then makes the ones inside. -/
private def climb (t : FileTree) : List Path → List Path → Except FileError FileTree
  | [], inside => t.createAll inside
  | p :: outer, inside =>
    if p.text = "" || p.parent?.isNone then t.createAll inside
    else match t.createFolder p with
      | .ok t => t.createAll inside
      | .error .missing => t.climb outer (p :: inside)
      | .error e => if e = .taken && t.isFolder p then t.createAll inside else .error e

def createFolders (t : FileTree) (p : Path) : Except FileError FileTree := t.climb p.ancestors []

def write (t : FileTree) (p : Path) (text : String) : Except FileError FileTree :=
  match t.follow p with
  | .ok trail =>
    match trail.node t.root with
    | .file _ => .ok (t.put trail.names (.file (some text)))
    | .folder _ => .error .isFolder
  | .error .missing =>
    if p.text = "" then .error .missing
    else if p.text.toList.getLast? = some '/' then .error .isFolder
    else t.add (t.steps p) (.file (some text))
  | .error e => .error e

end FileTree

/-! ## All files -/

mutual

/-- The paths of all files below a node. -/
def Node.files : Node → List String
  | .file _ => []
  | .folder entries => entryFiles entries

def entryFiles : List (String × Node) → List String
  | [] => []
  | (name, .file _) :: rest => name :: entryFiles rest
  | (name, .folder entries) :: rest =>
    (entryFiles entries).map (name ++ "/" ++ ·) ++ entryFiles rest

end

end TemplateBench
