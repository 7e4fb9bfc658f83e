import TemplateBench.Decimal.Fixed
import TemplateBench.Jinja.Argument

/-!
Texts with places such as `%s` and `%05.2f` that are filled with values in turn.
-/
namespace TemplateBench.Jinja
open Decimal Text

/-! ## Places -/

structure Place where
  left : Bool := false
  zeros : Bool := false
  plus : Bool := false
  blank : Bool := false
  width : Nat := 0
  precision : Option Nat := none
  conversion : Char
  deriving Repr, Inhabited

private def isFlag (c : Char) : Bool := c == '-' || c == '0' || c == '+' || c == ' ' || c == '#'

/-- A place after its percent sign. -/
private def readPlace (cs : List Char) : Option (Place × List Char) :=
  let flags := cs.takeWhile isFlag
  let (width, cs) := (cs.dropWhile isFlag).span isAsciiDigit
  let (precision, cs) := match cs with
    | '.' :: rest =>
      let (ds, rest) := rest.span isAsciiDigit
      (some (natOfDigits ds), rest)
    | cs => (none, cs)
  match cs with
  | [] => none
  | c :: rest =>
    some (⟨flags.contains '-', flags.contains '0', flags.contains '+', flags.contains ' ',
      natOfDigits width, precision, c⟩, rest)

/-! ## Values -/

private def baseDigits (base : Nat) : Nat → Nat → List Char → List Char
  | 0, _, acc => acc
  | fuel + 1, n, acc =>
    if n < base then hexDigit n :: acc else baseDigits base fuel (n / base) (hexDigit (n % base) :: acc)

private def natInBase (base n : Nat) : List Char := baseDigits base (n.log2 + 1) n []

/-- A text without its sign, and the sign. -/
private def signed (p : Place) (negative : Bool) (digits : List Char) : List Char × List Char :=
  (if negative then ['-'] else if p.plus then ['+'] else if p.blank then [' '] else [], digits)

private def pad (p : Place) (numeric : Bool) (sign digits : List Char) : List Char :=
  let missing := p.width - (sign.length + digits.length)
  if p.left then sign ++ digits ++ List.replicate missing ' '
  else if p.zeros && numeric then sign ++ List.replicate missing '0' ++ digits
  else List.replicate missing ' ' ++ sign ++ digits

private def whole (v : Value) : Outcome Int :=
  match v with
  | .float x =>
    match Value.wholeOf? (truncate x) with
    | some n => .ok n
    | none => invalid
  | v => v.asInt

private def integer (p : Place) (base : Nat) (v : Value) : Outcome (List Char) := do
  let n ← whole v
  let (sign, digits) := signed p (n < 0) (natInBase base n.natAbs)
  return pad p true sign digits

private def fixedPoint (p : Place) (v : Value) : Outcome (List Char) :=
  match v.float? with
  | some x =>
    let cs := (fixed (p.precision.getD 6) x).toList
    let (sign, digits) := match cs with
      | '-' :: rest => signed p true rest
      | cs => signed p false cs
    .ok (pad p true sign digits)
  | none => invalid

private def fill (p : Place) (v : Value) : Outcome (List Char) :=
  match p.conversion with
  | 's' =>
    let cs := v.text.toList
    .ok (pad p false [] (match p.precision with
      | some n => cs.take n
      | none => cs))
  | 'd' | 'i' | 'u' => integer p 10 v
  | 'o' => integer p 8 v
  | 'x' => integer p 16 v
  | 'X' => do return (← integer p 16 v).map Char.toUpper
  | 'f' | 'F' => fixedPoint p v
  | _ => invalid

/-! ## Texts -/

private def fillFrom : Nat → List Char → List Value → Outcome (List Char)
  | 0, _, _ => invalid
  | _ + 1, [], [] => .ok []
  | _ + 1, [], _ :: _ => invalid
  | n + 1, '%' :: '%' :: rest, vs => do return '%' :: (← fillFrom n rest vs)
  | n + 1, '%' :: rest, vs =>
    match readPlace rest, vs with
    | some (p, rest), v :: vs => do return (← fill p v) ++ (← fillFrom n rest vs)
    | _, _ => invalid
  | n + 1, c :: rest, vs => do return c :: (← fillFrom n rest vs)

/-- Every place is filled, and every value is used. -/
def format (pattern : String) (vs : List Value) : Outcome String := do
  let cs := pattern.toList
  return String.ofList (← fillFrom (cs.length + 1) cs vs)

end TemplateBench.Jinja
