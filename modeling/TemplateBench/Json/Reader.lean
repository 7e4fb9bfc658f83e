import TemplateBench.Decimal.Numeral
import TemplateBench.Json.Value

/-!
Reading JSON texts.

`Json.read?` accepts exactly one value with blanks around it. A number without point and exponent
is an integer; every other one is the nearest floating point number.
-/
namespace TemplateBench.Json
open Text Decimal

/-! ## Blanks and numbers -/

private def skipBlank (cs : List Char) : List Char :=
  cs.dropWhile fun c => c == ' ' || c == '\t' || c == '\n' || c == '\r'

private def readNumber (cs : List Char) : Option (Json × List Char) :=
  let (negative, cs) := match cs with
    | '-' :: cs => (true, cs)
    | cs => (false, cs)
  match cs.span isAsciiDigit with
  | ([], _) => none
  | (whole, rest) =>
    let (part, rest, point) := match rest with
      | '.' :: more =>
        let (part, rest) := more.span isAsciiDigit
        (part, rest, true)
      | _ => ([], rest, false)
    if point && part.isEmpty then none
    else
      let float (power : Int) (rest : List Char) :=
        let x := nearest (natOfDigits (whole ++ part)) (power - part.length)
        some (Json.float (if negative then -x else x), rest)
      match rest with
      | 'e' :: more | 'E' :: more => do
        let (power, rest) ← readExponent? more
        float power rest
      | _ =>
        if point then float 0 rest
        else
          let n : Int := natOfDigits whole
          if negative && n = 0 then some (.float (-0.0), rest)
          else some (.int (if negative then -n else n), rest)

/-! ## Strings -/

private def unit? (a b c d : Char) : Option Nat := do
  return ((← digitValue? 16 a) * 16 + (← digitValue? 16 b)) * 256 + (← digitValue? 16 c) * 16 + (← digitValue? 16 d)

/-- The rest of a string after its opening quote; surrogates come in pairs. -/
private def readString : Nat → List Char → List Char → Option (List Char × List Char)
  | 0, _, _ => none
  | _, _, [] => none
  | _ + 1, acc, '"' :: rest => some (acc.reverse, rest)
  | n + 1, acc, '\\' :: 'u' :: a :: b :: c :: d :: rest => do
    let u ← unit? a b c d
    if 0xD800 ≤ u && u < 0xDC00 then
      match rest with
      | '\\' :: 'u' :: a :: b :: c :: d :: rest => do
        let v ← unit? a b c d
        if 0xDC00 ≤ v && v < 0xE000 then
          readString n (Char.ofNat (0x10000 + (u - 0xD800) * 1024 + (v - 0xDC00)) :: acc) rest
        else none
      | _ => none
    else if 0xDC00 ≤ u && u < 0xE000 then none
    else readString n (Char.ofNat u :: acc) rest
  | n + 1, acc, '\\' :: c :: rest =>
    match c with
    | '"' => readString n ('"' :: acc) rest
    | '\\' => readString n ('\\' :: acc) rest
    | '/' => readString n ('/' :: acc) rest
    | 'b' => readString n ('\x08' :: acc) rest
    | 'f' => readString n ('\x0c' :: acc) rest
    | 'n' => readString n ('\n' :: acc) rest
    | 'r' => readString n ('\r' :: acc) rest
    | 't' => readString n ('\t' :: acc) rest
    | _ => none
  | n + 1, acc, c :: rest => if c.toNat < 32 then none else readString n (c :: acc) rest

/-! ## Values -/

mutual

private def readValue : Nat → List Char → Option (Json × List Char)
  | 0, _ => none
  | n + 1, cs =>
    match skipBlank cs with
    | 'n' :: 'u' :: 'l' :: 'l' :: rest => some (.null, rest)
    | 't' :: 'r' :: 'u' :: 'e' :: rest => some (.bool true, rest)
    | 'f' :: 'a' :: 'l' :: 's' :: 'e' :: rest => some (.bool false, rest)
    | '"' :: rest => do
      let (s, rest) ← readString (rest.length + 1) [] rest
      return (.string (String.ofList s), rest)
    | '[' :: rest =>
      match skipBlank rest with
      | ']' :: rest => some (.array [], rest)
      | rest => readItems n [] rest
    | '\x7b' :: rest =>
      match skipBlank rest with
      | '\x7d' :: rest => some (.object [], rest)
      | rest => readMembers n [] rest
    | cs => readNumber cs

private def readItems : Nat → List Json → List Char → Option (Json × List Char)
  | 0, _, _ => none
  | n + 1, acc, cs => do
    let (v, rest) ← readValue n cs
    match skipBlank rest with
    | ',' :: rest => readItems n (v :: acc) rest
    | ']' :: rest => some (.array (v :: acc).reverse, rest)
    | _ => none

private def readMembers : Nat → List (String × Json) → List Char → Option (Json × List Char)
  | 0, _, _ => none
  | n + 1, acc, cs => do
    match skipBlank cs with
    | '"' :: rest => do
      let (name, rest) ← readString (rest.length + 1) [] rest
      match skipBlank rest with
      | ':' :: rest => do
        let (v, rest) ← readValue n rest
        let acc := (String.ofList name, v) :: acc
        match skipBlank rest with
        | ',' :: rest => readMembers n acc rest
        | '\x7d' :: rest => some (.object acc.reverse, rest)
        | _ => none
      | _ => none
    | _ => none

end

/-- Reads a whole text; members keep their written order. -/
def read? (text : String) : Option Json :=
  let cs := text.toList
  match readValue (cs.length + 1) cs with
  | some (v, rest) => if (skipBlank rest).isEmpty then some v else none
  | none => none

end TemplateBench.Json
