import TemplateBench.Json.Value
import TemplateBench.Yaml.Node

/-!
The JSON value of a document.

* A plain scalar is null, a truth value, a number or else a string; any other scalar is a string
  unless its tag says what it is.
* The name of a member is the text of its key. Collections are no keys, and of two members with
  one name the later one wins.
* Private tags are refused, and so are collections nested deeper than `depthLimit` and documents
  whose aliases are followed too often.
-/
namespace TemplateBench.Yaml
open Text Decimal

/-! ## Plain scalars -/

def isNullWord (s : String) : Bool := s == "null" || s == "Null" || s == "NULL" || s == "~"

def readBool? (s : String) : Option Bool :=
  if s == "true" || s == "True" || s == "TRUE" then some true
  else if s == "false" || s == "False" || s == "FALSE" then some false
  else none

/-- Digits after a leading zero spell no number. -/
private def isZeroLed (cs : List Char) : Bool :=
  let cs := match cs with
    | '-' :: rest | '+' :: rest => rest
    | cs => cs
  match cs with
  | '0' :: d :: rest => (d :: rest).all isAsciiDigit
  | _ => false

private def basedMagnitude? (cs : List Char) : Option Nat :=
  match cs with
  | '0' :: 'x' :: ds => readNat? 16 ds
  | '0' :: 'o' :: ds => readNat? 8 ds
  | '0' :: 'b' :: ds => readNat? 2 ds
  | _ => none

private def magnitude? (cs : List Char) : Option Nat := basedMagnitude? cs <|> readNat? 10 cs

/-- An integer that is written out, whatever its size. -/
def readInt? (s : String) : Option Int :=
  let cs := s.toList
  if isZeroLed cs then none
  else
    match cs with
    | '-' :: rest => (magnitude? rest).map fun n => -(n : Int)
    | '+' :: rest => (magnitude? rest).map fun n => (n : Int)
    | cs => (magnitude? cs).map fun n => (n : Int)

private def isInfinityWord (s : String) : Bool := s == ".inf" || s == ".Inf" || s == ".INF"

private def isNanWord (s : String) : Bool := s == ".nan" || s == ".NaN" || s == ".NAN"

/-- The floating point number that a scalar spells; outside the inner option it spells none, and
inside it the number is not finite. -/
def readReal? (s : String) : Option (Option Float) :=
  let cs := s.toList
  let finite (x? : Option Float) : Option (Option Float) :=
    x?.bind fun x => if x.isFinite then some (some x) else none
  match cs with
  | '+' :: rest => if isInfinityWord (String.ofList rest) then some none else finite (readFloat? rest)
  | '-' :: rest => if isInfinityWord (String.ofList rest) then some none else finite (readSignedFloat? cs)
  | _ => if isInfinityWord s || isNanWord s then some none else finite (readFloat? cs)

private def realJson : Option Float → Json
  | some x => .float x
  | none => .null

private def inWords (bits : Nat) (n : Int) : Bool :=
  -(Nat.pow 2 (bits - 1) : Int) ≤ n && n < (Nat.pow 2 bits : Int)

/-- The integer of a scalar. One of more than 64 bits is no JSON value, and one of more than 128
bits is read as a floating point number instead. -/
private def integerJson? (s : String) : Option (Scanning Json) :=
  match readInt? s with
  | some n =>
    if inWords 64 n then some (.ok (.int n)) else if inWords 128 n then some fail else none
  | none => none

def plainJson (s : String) : Scanning Json :=
  if s = "" || isNullWord s then .ok .null
  else match readBool? s with
    | some b => .ok (.bool b)
    | none =>
      match integerJson? s with
      | some result => result
      | none =>
        match (if isZeroLed s.toList then none else readReal? s) with
        | some x => .ok (realJson x)
        | none => .ok (.string s)

/-! ## Tags -/

private def standardTag (name : String) : String := "tag:yaml.org,2002:" ++ name

private def isPrivateTag (tag : Option String) : Bool := tag.any fun t => t.front? == some '!'

private def taggedJson (tag text : String) : Scanning Json :=
  if tag = standardTag "bool" then
    match readBool? text with
    | some b => .ok (.bool b)
    | none => fail
  else if tag = standardTag "int" then (integerJson? text).getD fail
  else if tag = standardTag "float" then
    match readReal? text with
    | some x => .ok (realJson x)
    | none => fail
  else if tag = standardTag "null" then if isNullWord text then .ok .null else fail
  else .ok (.string text)

def scalarJson (text : String) (plain : Bool) (tag : Option String) : Scanning Json :=
  match tag with
  | some t => taggedJson t text
  | none => if plain then plainJson text else .ok (.string text)

/-! ## Documents -/

def depthLimit : Nat := 128

/-- Counts how often an alias was followed. -/
abbrev Following (α : Type) := StateT Nat (Except Malformed) α

namespace Document

/-- The node itself in place of its alias. -/
private def follow (d : Document) (node : Node) : Following Node := do
  match node with
  | .alias number =>
    let steps := (← get) + 1
    set steps
    if steps > 100 * d.pieces then throw .malformed
    match d.target? number with
    | some target => return target
    | none => throw .malformed
  | node => return node

private def memberName (d : Document) (key : Node) : Following String := do
  match ← d.follow key with
  | .scalar text _ _ => return text
  | _ => throw .malformed

private def jsonWithin (d : Document) : Nat → Node → Following Json
  | depth, node => do
    match ← d.follow node with
    | .scalar text plain tag => if isPrivateTag tag then throw .malformed else scalarJson text plain tag
    | .alias _ => throw .malformed
    | .sequence tag items =>
      if isPrivateTag tag then throw .malformed
      else match depth with
        | 0 => throw .malformed
        | depth + 1 => return .array (← items.mapM fun item => d.jsonWithin depth item)
    | .mapping tag entries =>
      if isPrivateTag tag then throw .malformed
      else match depth with
        | 0 => throw .malformed
        | depth + 1 =>
          let members ← entries.mapM fun (key, value) => do
            let name ← d.memberName key
            return (name, ← d.jsonWithin depth value)
          return Json.ofMembers members

def toJson (d : Document) : Except Malformed Json := (d.jsonWithin depthLimit d.root).run' 0

end Document

/-- The JSON value that a text describes. -/
def read (text : String) : Except Malformed Json := do (← Document.read text).toJson

end TemplateBench.Yaml
