import TemplateBench.Decimal.Shortest
import TemplateBench.Jinja.Tree
import TemplateBench.Json.Printer
import TemplateBench.Text.Letters
import TemplateBench.Text.Shown

/-!
Values of the template language.

* `Value.text` is what a value prints, `Value.shown` how it appears inside a list or map.
* `Value.compare` is the order of values: first by kind, then within the kind. `Value.same` is
  equality, in which numbers of all types and truth values compare by what they are worth.
* Maps are sorted by key.
-/
namespace TemplateBench.Jinja
open Decimal

/-! ## Values -/

inductive Value
  | undefined
  | null
  | bool (b : Bool)
  | int (n : Int)
  | float (x : Float)
  /-- A safe text is printed as it is where others are escaped. -/
  | string (s : String) (safe : Bool)
  /-- A lazy sequence is one that is made item by item, such as a range or a slice. -/
  | list (items : List Value) (lazy : Bool)
  | map (members : List (Value × Value))
  /-- The items of a list that have one key. -/
  | group (key : Value) (items : List Value)
  /-- A map with members that can be assigned to. -/
  | space (place : Nat)
  | loop (place : Nat)
  | closure (m : Macro) (place : Nat)
  | function (name : String)

instance : Inhabited Value := ⟨.undefined⟩

namespace Value

def text? : Value → Option String
  | .string s _ => some s
  | _ => none

def ofString (s : String) : Value := .string s false

def ofChars (cs : List Char) : Value := .string (String.ofList cs) false

def ofList (items : List Value) : Value := .list items false

/-- The value of a JSON value. -/
def ofJson : Json → Value
  | .null => .null
  | .bool b => .bool b
  | .int n => .int n
  | .float x => .float x
  | .string s => .string s false
  | .array items => .list (items.attach.map fun ⟨v, _⟩ => ofJson v) false
  | .object members =>
    .map (members.attach.map fun ⟨(n, v), _⟩ => (.string n false, ofJson v))
termination_by v => sizeOf v
decreasing_by
  · have := List.sizeOf_lt_of_mem ‹_›
    simp
    omega
  · have := List.sizeOf_lt_of_mem ‹_›
    simp at this ⊢
    omega

def ofLiteral : Literal → Value
  | .none => .null
  | .bool b => .bool b
  | .int n => .int n
  | .float x => .float x
  | .string s => .string s false

/-! ## Kinds -/

/-- The kinds of values, in the order in which values of different kinds compare. -/
inductive Kind
  | undefined
  | none
  | bool
  | number
  | string
  | sequence
  | map
  | iterable
  | plain
  deriving DecidableEq, Repr, Inhabited

def Kind.rank : Kind → Nat
  | .undefined => 0
  | .none => 1
  | .bool => 2
  | .number => 3
  | .string => 4
  | .sequence => 5
  | .map => 6
  | .iterable => 7
  | .plain => 8

def kind : Value → Kind
  | .undefined => .undefined
  | .null => .none
  | .bool _ => .bool
  | .int _ => .number
  | .float _ => .number
  | .string _ _ => .string
  | .list _ lazy => if lazy then .iterable else .sequence
  | .map _ => .map
  | .group _ _ => .sequence
  | .space _ => .map
  | .loop _ => .map
  | .closure _ _ => .plain
  | .function _ => .plain

def isUndefined : Value → Bool
  | .undefined => true
  | _ => false

/-- An absent argument may also be written as one of these. -/
def isAbsent : Value → Bool
  | .undefined => true
  | .null => true
  | _ => false

def isTrue : Value → Bool
  | .undefined => false
  | .null => false
  | .bool b => b
  | .int n => n != 0
  | .float x => x != 0.0
  | .string s _ => s != ""
  | .list items _ => !items.isEmpty
  | .map members => !members.isEmpty
  | _ => true

/-- The items of a value that can be gone through: characters of a text, keys of a map. -/
def items? : Value → Option (List Value)
  | .undefined => some []
  | .null => some []
  | .string s _ => some (s.toList.map fun c => .string (String.singleton c) false)
  | .list items _ => some items
  | .map members => some (members.map (·.1))
  | .group key items => some [key, .list items false]
  | _ => none

/-- Items of a sequence, which a text is not. -/
def sequence? : Value → Option (List Value)
  | .list items _ => some items
  | .map members => some (members.map (·.1))
  | .group key items => some [key, .list items false]
  | _ => none

/-! ## Numbers -/

/-- Numbers are positional, whatever their size. -/
def numberLayout : Layout := ⟨-10000, 10000, true, "NaN", "inf"⟩

def floatText (x : Float) : String := numberLayout.write x

/-- The integer that a floating point number is, if it is one. -/
def wholeOf? (x : Float) : Option Int :=
  match decode x with
  | .finite d =>
    let (num, den) := d.fraction
    if num % den = 0 then
      let n : Int := num / den
      some (if d.negative then -n else n)
    else none
  | _ => none

/-- The least integer of 128 bits. -/
def least : Int := -170141183460469231731687303715884105728

/-- The greatest integer of 128 bits. -/
def greatest : Int := 170141183460469231731687303715884105727

/-- Integers stay within 128 bits. -/
def inRange (n : Int) : Bool := least ≤ n && n ≤ greatest

private def inWord (n : Int) : Bool := -9223372036854775808 ≤ n && n ≤ 9223372036854775807

/-- What a value is worth as an integer. -/
def int? : Value → Option Int
  | .bool b => some (if b then 1 else 0)
  | .int n => if inRange n then some n else none
  | .float x => (wholeOf? x).filter inWord
  | _ => none

/-- The floating point number nearest to an integer. -/
def floatOfInt (n : Int) : Float := if n < 0 then -(nearest n.natAbs 0) else nearest n.toNat 0

def float? : Value → Option Float
  | .bool b => some (if b then 1.0 else 0.0)
  | .int n => some (floatOfInt n)
  | .float x => some x
  | _ => none

/-- Two values brought to one type, in which they are compared and reckoned with. -/
inductive Pair
  | ints (a b : Int)
  | floats (a b : Float)
  | texts (a b : String)

/-- A floating point operand takes the other one with it; `exact` asks that this loses nothing. -/
def pair? (exact : Bool) (a b : Value) : Option Pair :=
  let float? (v : Value) : Option Float := do
    let x ← v.float?
    match v with
    | .int n => if exact && wholeOf? x != some n then none else some x
    | _ => some x
  match a, b with
  | .string s _, .string t _ => some (.texts s t)
  | .float x, b => (float? b).map (.floats x)
  | a, .float y => (float? a).map (.floats · y)
  | a, b => do return .ints (← a.int?) (← b.int?)

/-! ## Order -/

private def floatOrder (a b : Float) : Ordering :=
  if a < b then .lt else if b < a then .gt else if a == b then .eq
  else if a.isNaN then (if b.isNaN then .eq else .gt) else .lt

private def pairOrder : Pair → Ordering
  | .ints a b => compareOfLessAndEq a b
  | .floats a b => floatOrder a b
  | .texts a b => compareOfLessAndEq a b

/-- The pieces of a collection in the order in which they are compared. -/
private def pieces : Value → List Value
  | .list items _ => items
  | .map members => members.flatMap fun (k, v) => [k, v]
  | .group key items => [key, .list items false]
  | _ => []

/-- How deep collections are compared. -/
private def compareLimit : Nat := 256

private def compareWithin : Nat → Value → Value → Ordering
  | 0, _, _ => .eq
  | n + 1, a, b =>
    match compare a.kind.rank b.kind.rank with
    | .lt => .lt
    | .gt => .gt
    | .eq =>
      match pair? true a b with
      | some p => pairOrder p
      | none => compareLists (compareWithin n) a.pieces b.pieces
where
  compareLists (f : Value → Value → Ordering) : List Value → List Value → Ordering
    | [], [] => .eq
    | [], _ :: _ => .lt
    | _ :: _, [] => .gt
    | a :: as, b :: bs =>
      match f a b with
      | .eq => compareLists f as bs
      | o => o

def compare (a b : Value) : Ordering := compareWithin compareLimit a b

private def sameLists (f : Value → Value → Bool) : List Value → List Value → Bool
  | [], [] => true
  | a :: as, b :: bs => f a b && sameLists f as bs
  | _, _ => false

private def isCollection : Value → Bool
  | .list _ _ => true
  | .group _ _ => true
  | _ => false

private def sameWithin : Nat → Value → Value → Bool
  | 0, _, _ => true
  | n + 1, a, b =>
    match a, b with
    | .undefined, .undefined => true
    | .null, .null => true
    | .space p, .space q => p == q
    | .loop p, .loop q => p == q
    | .function p, .function q => p == q
    | .map ms, .map ns => sameLists (sameWithin n) (pieces (.map ms)) (pieces (.map ns))
    | a, b =>
      match pair? true a b with
      | some (.ints x y) => x == y
      | some (.floats x y) => x == y
      | some (.texts x y) => x == y
      | none => a.isCollection && b.isCollection && sameLists (sameWithin n) a.pieces b.pieces

def same (a b : Value) : Bool := sameWithin compareLimit a b

/-! ## Maps -/

def insertMember (key value : Value) : List (Value × Value) → List (Value × Value)
  | [] => [(key, value)]
  | (k, v) :: rest =>
    match compare key k with
    | .lt => (key, value) :: (k, v) :: rest
    | .eq => (k, value) :: rest
    | .gt => (k, v) :: insertMember key value rest

def ofMembers (members : List (Value × Value)) : Value :=
  .map (members.foldl (fun acc (k, v) => insertMember k v acc) [])

def ofNamed (members : List (String × Value)) : Value :=
  ofMembers (members.map fun (n, v) => (.string n false, v))

/-- The place that an index means; a negative one counts from the end. -/
def index? (key : Value) (length : Nat) : Option Nat := do
  let i ← key.int?
  if i ≥ 0 then some i.toNat else if i.natAbs ≤ length then some (length - i.natAbs) else none

/-- The member of a value under a key. -/
def member? (v key : Value) : Option Value :=
  match v with
  | .string s _ => do
    let cs := s.toList
    let c ← cs[← key.index? cs.length]?
    return .string (String.singleton c) false
  | .list items _ => do items[← key.index? items.length]?
  | .map members => (members.find? fun (k, _) => compare k key == .eq).map (·.2)
  | .group k items =>
    match key with
    | .string "grouper" _ => some k
    | .string "list" _ => some (.list items false)
    | key => do [k, .list items false][← key.index? 2]?
  | _ => none

/-! ## Text -/

mutual

/-- A value inside a collection. -/
def shown : Value → String
  | .undefined => "undefined"
  | .null => "None"
  | .bool b => if b then "True" else "False"
  | .int n => intText n
  | .float x => floatText x
  | .string s _ => Text.shown s
  | .list items _ => "[" ++ shownItems items ++ "]"
  | .map members => "\x7b" ++ shownMembers members ++ "\x7d"
  | .group key items => "[" ++ shown key ++ ", [" ++ shownItems items ++ "]]"
  | .space _ => "\x7b\x7d"
  | .loop _ => "<loop>"
  | .closure m _ => "<macro " ++ m.name ++ ">"
  | .function name => name

def shownItems : List Value → String
  | [] => ""
  | [v] => shown v
  | v :: rest => shown v ++ ", " ++ shownItems rest

def shownMembers : List (Value × Value) → String
  | [] => ""
  | [(k, v)] => shown k ++ ": " ++ shown v
  | (k, v) :: rest => shown k ++ ": " ++ shown v ++ ", " ++ shownMembers rest

end

/-- What a value prints; an undefined one prints nothing. -/
def text : Value → String
  | .undefined => ""
  | .string s _ => s
  | v => v.shown

private def indent (level : Nat) : String := String.ofList (List.replicate (4 * level) ' ')

mutual

/-- A value over several lines, one item or member a line. -/
def spread (level : Nat) : Value → String
  | .list [] _ => "[]"
  | .list items _ => "[\n" ++ spreadItems (level + 1) items ++ indent level ++ "]"
  | .map [] => "\x7b\x7d"
  | .map members => "\x7b\n" ++ spreadMembers (level + 1) members ++ indent level ++ "\x7d"
  | v => v.shown

def spreadItems (level : Nat) : List Value → String
  | [] => ""
  | v :: rest => indent level ++ spread level v ++ ",\n" ++ spreadItems level rest

def spreadMembers (level : Nat) : List (Value × Value) → String
  | [] => ""
  | (k, v) :: rest =>
    indent level ++ spread level k ++ ": " ++ spread level v ++ ",\n" ++ spreadMembers level rest

end

/-! ## JSON -/

mutual

def toJson : Value → Json
  | .undefined => .null
  | .null => .null
  | .bool b => .bool b
  | .int n => .int n
  | .float x => .float x
  | .string s _ => .string s
  | .list items _ => .array (itemsJson items)
  | .map members => .object (membersJson members)
  | .group key items => .array [toJson key, .array (itemsJson items)]
  | v => .string v.shown

def itemsJson : List Value → List Json
  | [] => []
  | v :: rest => toJson v :: itemsJson rest

def membersJson : List (Value × Value) → List (String × Json)
  | [] => []
  | (k, v) :: rest => (k.text, toJson v) :: membersJson rest

end

end Value

end TemplateBench.Jinja
