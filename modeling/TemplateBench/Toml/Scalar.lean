import TemplateBench.Decimal.Numeral
import TemplateBench.Toml.Value

/-!
Scalars of TOML that are written without quotes: booleans, numbers, dates and times.

* Underscores stand only between two digits, and a decimal number has no leading zero.
* Dates are days of the calendar; a time may leave out its seconds.
-/
namespace TemplateBench.Toml
open Text Decimal

/-! ## Numbers -/

/-- Digits without the underscores between them. -/
def plainDigits? (isDigit : Char → Bool) (cs : List Char) : Option (List Char) :=
  let groups := splitOn '_' cs
  if groups.all fun g => !g.isEmpty && g.all isDigit then some groups.flatten else none

private def splitSign : List Char → Bool × List Char
  | '-' :: cs => (true, cs)
  | '+' :: cs => (false, cs)
  | cs => (false, cs)

private def signed (negative : Bool) (n : Nat) : Int := if negative then -n else n

/-- Integers lie between the smallest of 128 bits with a sign and the greatest without one. -/
private def inRange (n : Int) : Bool :=
  -170141183460469231731687303715884105728 ≤ n && n ≤ 340282366920938463463374607431768211455

private def toBase? (base : Nat) (cs : List Char) : Option Nat :=
  (plainDigits? (fun c => (digitValue? base c).isSome) cs).bind (readNat? base)

private def wholePart? (cs : List Char) : Option (List Char) :=
  (plainDigits? isAsciiDigit cs).bind fun ds =>
    if ds.length > 1 && ds.head? = some '0' then none else some ds

def integer? (cs : List Char) : Option Int :=
  let n := match cs with
    | '0' :: 'x' :: ds => (toBase? 16 ds).map Int.ofNat
    | '0' :: 'o' :: ds => (toBase? 8 ds).map Int.ofNat
    | '0' :: 'b' :: ds => (toBase? 2 ds).map Int.ofNat
    | cs =>
      let (negative, cs) := splitSign cs
      (wholePart? cs).map fun ds => signed negative (natOfDigits ds)
  n.filter inRange

private def isPower (c : Char) : Bool := c == 'e' || c == 'E'

/-- Every number but the infinities themselves is finite. -/
def float? (cs : List Char) : Option Float :=
  let (negative, cs) := splitSign cs
  let sign (x : Float) : Float := if negative then -x else x
  if cs = ['i', 'n', 'f'] then some (sign (1.0 / 0.0))
  else if cs = ['n', 'a', 'n'] then some (0.0 / 0.0)
  else
    let (mantissa, power) := cs.span (!isPower ·)
    let (whole, part) := mantissa.span (· != '.')
    if power.isEmpty && part.isEmpty then none
    else do
      let whole ← wholePart? whole
      let part ← match part with
        | [] => some []
        | _ :: ds => plainDigits? isAsciiDigit ds
      let power ← match power with
        | [] => some 0
        | _ :: ds =>
          let (negative, ds) := splitSign ds
          (plainDigits? isAsciiDigit ds).map fun ds => signed negative (natOfDigits ds)
      let x := nearest (natOfDigits (whole ++ part)) (power - part.length)
      if x.isInf then none else some (sign x)

/-! ## Dates and times -/

private def fixedDigits? (count : Nat) (cs : List Char) : Option (Nat × List Char) :=
  let ds := cs.take count
  if ds.length = count && ds.all isAsciiDigit then some (natOfDigits ds, cs.drop count) else none

private def expect (c : Char) : List Char → Option (List Char)
  | d :: rest => if d = c then some rest else none
  | [] => none

private def daysInMonth (year month : Nat) : Nat :=
  if month = 2 then
    if year % 4 = 0 && (year % 100 ≠ 0 || year % 400 = 0) then 29 else 28
  else if month = 4 || month = 6 || month = 9 || month = 11 then 30 else 31

/-- The rest of a text after a date. -/
def afterDate? (cs : List Char) : Option (List Char) := do
  let (year, cs) ← fixedDigits? 4 cs
  let (month, cs) ← fixedDigits? 2 (← expect '-' cs)
  let (day, cs) ← fixedDigits? 2 (← expect '-' cs)
  if 1 ≤ month && month ≤ 12 && 1 ≤ day && day ≤ daysInMonth year month then some cs else none

/-- The rest of a text after hours and minutes. -/
private def afterMinutes? (cs : List Char) : Option (List Char) := do
  let (hour, cs) ← fixedDigits? 2 cs
  let (minute, cs) ← fixedDigits? 2 (← expect ':' cs)
  if hour ≤ 23 && minute ≤ 59 then some cs else none

private def afterTime? (cs : List Char) : Option (List Char) := do
  let cs ← afterMinutes? cs
  match cs with
  | ':' :: cs => do
    let (second, cs) ← fixedDigits? 2 cs
    if second > 60 then none
    else match cs with
      | '.' :: cs => if (cs.takeWhile isAsciiDigit).isEmpty then none else some (cs.dropWhile isAsciiDigit)
      | cs => some cs
  | cs => some cs

private def isOffset : List Char → Bool
  | [] | ['Z'] | ['z'] => true
  | '+' :: cs | '-' :: cs => afterMinutes? cs == some []
  | _ => false

def isMoment (cs : List Char) : Bool :=
  match afterDate? cs with
  | some [] => true
  | some (c :: time) =>
    (c == 'T' || c == 't' || c == ' ') && (afterTime? time).any isOffset
  | none => afterTime? cs == some []

/-! ## Scalars -/

def scalar? (cs : List Char) : Option Toml :=
  if cs = "true".toList then some (.boolean true)
  else if cs = "false".toList then some (.boolean false)
  else if isMoment cs then some (.moment (String.ofList cs))
  else match integer? cs with
    | some n => some (.integer n)
    | none => (float? cs).map .float

end TemplateBench.Toml
