import TemplateBench.Text.Lines

/-!
Values of TOML, and how tables grow while a document is read.

* `Toml.define` puts a value under a dotted key. The tables on the way are made by the key or by
  other dotted keys, never by a header.
* `Toml.openTable` is what a header `[a.b]` does, and `Toml.openItem` what `[[a.b]]` does.
* No key is given twice, and a table that stands as a value is closed.
-/
namespace TemplateBench

/-- How a table came to be: named on the way of a header, by a header, by a dotted key, or written
out as a value. -/
inductive Standing
  | passed
  | header
  | dotted
  | closed
  deriving DecidableEq, Repr, Inhabited

inductive Toml
  | string (s : String)
  | integer (n : Int)
  | float (x : Float)
  | boolean (b : Bool)
  /-- A date, a time or both. -/
  | moment (text : String)
  /-- An array grows if it is made of headers. -/
  | array (grows : Bool) (items : List Toml)
  | table (standing : Standing) (entries : List (String × Toml))
  deriving Repr, Inhabited

namespace Toml

def empty : Toml := .table .header []

def field? (name : String) : Toml → Option Toml
  | .table _ entries => entries.lookup name
  | _ => none

/-! ## Growing -/

/-- Changes the entry of a key, or adds one; the change may be refused. -/
private def changeEntry (key : String) (f : Option Toml → Option Toml) :
    List (String × Toml) → Option (List (String × Toml))
  | [] => (f none).map fun v => [(key, v)]
  | (k, v) :: rest =>
    if k = key then (f (some v)).map fun v => (k, v) :: rest
    else (changeEntry key f rest).map ((k, v) :: ·)

private def changeLast (f : Toml → Option Toml) : List Toml → Option (List Toml)
  | [] => none
  | [v] => (f v).map ([·])
  | v :: rest => (changeLast f rest).map (v :: ·)

/-- A dotted key may not enter a table that has its own header, a header not one that is closed. -/
private def enters (dotted : Bool) : Standing → Bool
  | .passed | .dotted => true
  | .header => !dotted
  | .closed => false

/-- Changes the table that a path leads to. The path goes through the last item of an array that
grows, and makes the tables that are not there. -/
private def descend (dotted : Bool) (f : Standing → List (String × Toml) → Option Toml) :
    List String → Toml → Option Toml
  | [], .table standing entries => f standing entries
  | key :: path, .table standing entries =>
    (changeEntry key (fun
      | none => descend dotted f path (.table (if dotted then .dotted else .passed) [])
      | some (.table s es) => if enters dotted s then descend dotted f path (.table s es) else none
      | some (.array true vs) => (changeLast (descend dotted f path) vs).map (.array true)
      | some _ => none) entries).map (.table standing)
  | _, _ => none

/-- Changes what an array that grows ends in, or any other value itself. -/
private def inLast (f : Toml → Option Toml) : Toml → Option Toml
  | .array true vs => (changeLast f vs).map (.array true)
  | v => f v

/-- Changes the table of a header that has been read. -/
def within (f : Toml → Option Toml) : List String → Toml → Option Toml
  | [] => inLast f
  | key :: path => inLast fun
    | .table standing entries =>
      (changeEntry key (fun v => v.bind (within f path)) entries).map (.table standing)
    | _ => none

/-- The path and the last key of a dotted key. -/
private def target (keys : List String) : Option (List String × String) :=
  keys.getLast?.map fun key => (keys.dropLast, key)

def define (keys : List String) (value : Toml) (t : Toml) : Option Toml := do
  let (path, key) ← target keys
  descend true (fun standing entries =>
    if (standing == .dotted) == path.isEmpty then none
    else (changeEntry key (fun
      | none => some value
      | some _ => none) entries).map (.table standing)) path t

def openTable (keys : List String) (t : Toml) : Option Toml := do
  let (path, key) ← target keys
  descend false (fun standing entries =>
    (changeEntry key (fun
      | none => some empty
      | some (.table .passed es) => some (.table .header es)
      | some _ => none) entries).map (.table standing)) path t

def openItem (keys : List String) (t : Toml) : Option Toml := do
  let (path, key) ← target keys
  descend false (fun standing entries =>
    (changeEntry key (fun
      | none => some (.array true [empty])
      | some (.array true vs) => some (.array true (vs ++ [empty]))
      | some _ => none) entries).map (.table standing)) path t

end Toml

end TemplateBench
