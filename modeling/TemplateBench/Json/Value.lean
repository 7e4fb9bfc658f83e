import TemplateBench.Text.Lines

/-!
Values of JSON: cells, records, render contexts and reports.

The members of an object built by `Json.ofMembers` have distinct names in increasing order; of two
with one name the later one wins.
-/
namespace TemplateBench

inductive Json
  | null
  | bool (b : Bool)
  | int (n : Int)
  | float (x : Float)
  | string (s : String)
  | array (items : List Json)
  | object (members : List (String × Json))
  deriving Repr, Inhabited

namespace Json

/-- Puts a member where its name belongs, in place of one of the same name. -/
def insert (name : String) (value : Json) : List (String × Json) → List (String × Json)
  | [] => [(name, value)]
  | (n, v) :: rest =>
    if name = n then (name, value) :: rest
    else if name < n then (name, value) :: (n, v) :: rest
    else (n, v) :: insert name value rest

/-- Members sorted by name. -/
def sortMembers (members : List (String × Json)) : List (String × Json) :=
  members.foldl (fun acc (n, v) => insert n v acc) []

def ofMembers (members : List (String × Json)) : Json := .object (sortMembers members)

def ofOption {α : Type} (f : α → Json) : Option α → Json
  | none => .null
  | some a => f a

def strings (xs : List String) : Json := .array (xs.map .string)

def nat (n : Nat) : Json := .int n

def field? (name : String) : Json → Option Json
  | .object members => members.lookup name
  | _ => none

end Json

end TemplateBench
