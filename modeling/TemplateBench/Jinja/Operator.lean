import TemplateBench.Jinja.Value
import TemplateBench.Text.Lines

/-!
Operators on values, and what can go wrong in a rendering.

* Integers are exact within 128 bits; beyond them an operation fails.
* `/` always gives a floating point number; `//` and `%` on integers leave no negative remainder.
-/
namespace TemplateBench.Jinja
open Decimal

/-! ## Errors -/

inductive RenderError
  | invalidOperation
  | undefinedValue
  | unknownFilter
  | unknownFunction
  | unknownTest
  | unknownMethod
  | unknownBlock
  | templateNotFound
  | tooManyArguments
  | missingArgument
  | cannotUnpack
  deriving DecidableEq, Repr, Inhabited

def RenderError.message : RenderError → String
  | .invalidOperation => "invalid operation"
  | .undefinedValue => "undefined value"
  | .unknownFilter => "unknown filter"
  | .unknownFunction => "unknown function"
  | .unknownTest => "unknown test"
  | .unknownMethod => "unknown method"
  | .unknownBlock => "unknown block"
  | .templateNotFound => "template not found"
  | .tooManyArguments => "too many arguments"
  | .missingArgument => "missing argument"
  | .cannotUnpack => "cannot unpack"

abbrev Outcome (α : Type) := Except RenderError α

def invalid {α : Type} : Outcome α := .error .invalidOperation

/-! ## Floating point remainders -/

/-- The part of a number before the point. -/
def truncate (x : Float) : Float := if x < 0.0 then x.ceil else x.floor

/-- The remainder of a division that is cut to a whole quotient; it has the sign of `x`. -/
def remainder (x y : Float) : Float :=
  match decode x, decode y with
  | .finite a, .finite b =>
    if b.mantissa = 0 then 0.0 / 0.0
    else
      let e := min a.exponent b.exponent
      let scaled (d : Decimal.Dyadic) := d.mantissa * Nat.pow 2 (d.exponent - e).toNat
      let r := (Float.ofNat (scaled a % scaled b)).scaleB e
      if a.negative then -r else r
  | .finite _, .infinite _ => x
  | _, _ => 0.0 / 0.0

def floorQuotient (x y : Float) : Float :=
  let q := truncate (x / y)
  if remainder x y < 0.0 then (if y > 0.0 then q - 1.0 else q + 1.0) else q

namespace Value

/-! ## Arithmetic -/

private def checked (n : Int) : Outcome Value := if inRange n then .ok (.int n) else invalid

private def arithmetic (ints : Int → Int → Outcome Value) (floats : Float → Float → Float)
    (a b : Value) : Outcome Value :=
  match pair? false a b with
  | some (.ints x y) => ints x y
  | some (.floats x y) => .ok (.float (floats x y))
  | _ => invalid

private def isSequence (v : Value) : Bool := v.kind == .sequence || v.kind == .iterable

def add (a b : Value) : Outcome Value :=
  if isSequence a && isSequence b then
    .ok (.list ((a.items?.getD []) ++ (b.items?.getD [])) true)
  else match pair? false a b with
    | some (.texts s t) => .ok (.ofString (s ++ t))
    | _ => arithmetic (fun x y => checked (x + y)) (· + ·) a b

def sub (a b : Value) : Outcome Value := arithmetic (fun x y => checked (x - y)) (· - ·) a b

private def count? (v : Value) : Option Nat := v.int?.bind fun n => if n < 0 then none else some n.toNat

private def repeatText (s : String) (times : Value) : Outcome Value :=
  match count? times with
  | some n => .ok (.ofString (String.join (List.replicate n s)))
  | none => invalid

private def repeatItems (items : List Value) (times : Value) : Outcome Value :=
  match count? times with
  | some n => .ok (.list (List.replicate n items).flatten true)
  | none => invalid

/-- A text or sequence is repeated by a number on either side. -/
def mul (a b : Value) : Outcome Value :=
  match a.text?, b.text? with
  | some s, _ => repeatText s b
  | _, some s => repeatText s a
  | none, none =>
    if isSequence a then repeatItems (a.items?.getD []) b
    else if isSequence b then repeatItems (b.items?.getD []) a
    else arithmetic (fun x y => checked (x * y)) (· * ·) a b

def div (a b : Value) : Outcome Value :=
  match a.float?, b.float? with
  | some x, some y => .ok (.float (x / y))
  | _, _ => invalid

def floorDiv (a b : Value) : Outcome Value :=
  arithmetic (fun x y => if y = 0 then invalid else checked (x / y)) floorQuotient a b

def mod (a b : Value) : Outcome Value :=
  arithmetic (fun x y => if y = 0 then invalid else checked (x % y)) remainder a b

private def powInt (x y : Int) : Outcome Value :=
  if y < 0 then invalid
  else if x = 0 || x = 1 then .ok (.int (if y = 0 then 1 else x))
  else if x = -1 then .ok (.int (if y % 2 = 0 then 1 else -1))
  else if y > 128 then invalid
  else checked (Int.pow x y.toNat)

def pow (a b : Value) : Outcome Value := arithmetic powInt (fun x y => x ^ y) a b

def minus : Value → Outcome Value
  | .float x => .ok (.float (-x))
  | .int n => checked (-n)
  | _ => invalid

/-! ## Membership -/

private def isMember (v : Value) (items : List Value) : Bool := items.any fun i => i.same v

/-- Whether a value lies in a text, sequence or map; nothing lies in an undefined value. -/
def contains (container v : Value) : Outcome Bool :=
  match container with
  | .undefined => .ok false
  | .string s _ => .ok (Text.contains v.text.toList s.toList)
  | .list items _ => .ok (isMember v items)
  | .map _ => .ok (container.member? v).isSome
  | .group key items => .ok (isMember v [key, .list items false])
  | .space _ => .ok false
  | .loop _ => .ok false
  | .closure _ _ => .ok false
  | .function _ => .ok false
  | _ => invalid

/-- An operator on two values; `or` and `and` give one of them. -/
def operate (op : BinaryOp) (a b : Value) : Outcome Value :=
  match op with
  | .either => .ok (if a.isTrue then a else b)
  | .both => .ok (if a.isTrue then b else a)
  | .equal => .ok (.bool (a.same b))
  | .unequal => .ok (.bool !(a.same b))
  | .less => .ok (.bool (a.compare b == .lt))
  | .atMost => .ok (.bool (a.compare b != .gt))
  | .greater => .ok (.bool (a.compare b == .gt))
  | .atLeast => .ok (.bool (a.compare b != .lt))
  | .within => do return .bool (← contains b a)
  | .add => a.add b
  | .sub => a.sub b
  | .join => .ok (.ofString (a.text ++ b.text))
  | .mul => a.mul b
  | .div => a.div b
  | .floorDiv => a.floorDiv b
  | .mod => a.mod b
  | .pow => a.pow b

/-! ## Slices -/

private def sliceBound (v : Value) : Outcome (Option Int) :=
  match v with
  | .null => .ok none
  | v =>
    match v.int? with
    | some n => .ok (some n)
    | none => invalid

/-- A bound brought into the range of a list, a negative one counted from the end. -/
private def clamp (length : Nat) (low high n : Int) : Int :=
  let n := if n < 0 then n + length else n
  max low (min high n)

private def everyFrom {α : Type} (step : Nat) : Nat → List α → List α
  | _, [] => []
  | 0, a :: rest => a :: everyFrom step (step - 1) rest
  | n + 1, _ :: rest => everyFrom step n rest

/-- The items from one bound up to another, each `step`-th; a negative step goes backwards. -/
private def cut {α : Type} (start stop : Option Int) (step : Int) (items : List α) : List α :=
  let length := items.length
  if step > 0 then
    let first := (clamp length 0 length (start.getD 0)).toNat
    let last := (clamp length 0 length (stop.getD length)).toNat
    everyFrom step.toNat 0 ((items.take last).drop first)
  else
    let top : Int := length - 1
    let first := match start with
      | some n => clamp length (-1) top n
      | none => top
    let last := match stop with
      | some n => clamp length (-1) top n
      | none => -1
    everyFrom step.natAbs 0 ((items.take (first + 1).toNat).drop (last + 1).toNat).reverse

def slice (v start stop step : Value) : Outcome Value := do
  let start ← sliceBound start
  let stop ← sliceBound stop
  let step := (← sliceBound step).getD 1
  if step = 0 then invalid
  else match v with
    | .string s _ => return .ofChars (cut start stop step s.toList)
    | .undefined => return .ofList []
    | .null => return .ofList []
    | .list items _ => return .list (cut start stop step items) true
    | .group key items => return .list (cut start stop step [key, .list items false]) true
    | _ => invalid

/-! ## Attributes -/

/-- The item of a value under a key; only an undefined value has none at all. -/
def item (v key : Value) : Outcome Value :=
  match v with
  | .undefined => .error .undefinedValue
  | v => .ok ((v.member? key).getD .undefined)

private def pathKey (part : List Char) : Value :=
  match readNat? 10 part with
  | some n => .int n
  | none => .ofChars part

/-- The value at the end of a path of names and numbers with points between them. -/
def path (v : Value) (p : String) : Outcome Value :=
  (Text.splitOn '.' p.toList).foldlM (fun v part => item v (pathKey part)) v

def pathOr (v fallback : Value) (p : String) : Value :=
  match path v p with
  | .ok .undefined => fallback
  | .ok v => v
  | .error _ => fallback

end Value

end TemplateBench.Jinja
