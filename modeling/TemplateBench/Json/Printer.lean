import TemplateBench.Decimal.Numeral
import TemplateBench.Decimal.Shortest
import TemplateBench.Json.Value

/-!
JSON texts.

* `Json.compact` writes a value without blanks.
* `Json.pretty` writes one item or member a line, with two spaces a level.
-/
namespace TemplateBench.Json
open Decimal

/-! ## Scalars -/

/-- Numbers are positional from `0.00001` up to sixteen digits before the point. -/
def numberLayout : Layout := ⟨-5, 16, true, "null", "null"⟩

/-- Infinities and NaN have no JSON number. -/
def floatText (x : Float) : String :=
  if x.isFinite then numberLayout.write x else "null"

def escapeChar (c : Char) : List Char :=
  match c with
  | '"' => ['\\', '"']
  | '\\' => ['\\', '\\']
  | '\x08' => ['\\', 'b']
  | '\x0c' => ['\\', 'f']
  | '\n' => ['\\', 'n']
  | '\r' => ['\\', 'r']
  | '\t' => ['\\', 't']
  | c =>
    if c.toNat < 32 then ['\\', 'u', '0', '0', hexDigit (c.toNat / 16), hexDigit (c.toNat % 16)]
    else [c]

def quoted (s : String) : String :=
  String.ofList ('"' :: s.toList.flatMap escapeChar ++ ['"'])

/-! ## Compact -/

mutual

def compact : Json → String
  | .null => "null"
  | .bool b => if b then "true" else "false"
  | .int n => intText n
  | .float x => floatText x
  | .string s => quoted s
  | .array items => "[" ++ compactItems items ++ "]"
  | .object members => "\x7b" ++ compactMembers members ++ "\x7d"

def compactItems : List Json → String
  | [] => ""
  | [v] => compact v
  | v :: rest => compact v ++ "," ++ compactItems rest

def compactMembers : List (String × Json) → String
  | [] => ""
  | [(n, v)] => quoted n ++ ":" ++ compact v
  | (n, v) :: rest => quoted n ++ ":" ++ compact v ++ "," ++ compactMembers rest

end

/-! ## Pretty -/

private def indent (level : Nat) : String := String.ofList (List.replicate (2 * level) ' ')

mutual

/-- A value at a level of nesting; empty lists and objects stay on one line. -/
def prettyAt (level : Nat) : Json → String
  | .null => "null"
  | .bool b => if b then "true" else "false"
  | .int n => intText n
  | .float x => floatText x
  | .string s => quoted s
  | .array [] => "[]"
  | .array items => "[\n" ++ prettyItems (level + 1) items ++ "\n" ++ indent level ++ "]"
  | .object [] => "\x7b\x7d"
  | .object members =>
    "\x7b\n" ++ prettyMembers (level + 1) members ++ "\n" ++ indent level ++ "\x7d"

def prettyItems (level : Nat) : List Json → String
  | [] => ""
  | [v] => indent level ++ prettyAt level v
  | v :: rest => indent level ++ prettyAt level v ++ ",\n" ++ prettyItems level rest

def prettyMembers (level : Nat) : List (String × Json) → String
  | [] => ""
  | [(n, v)] => indent level ++ quoted n ++ ": " ++ prettyAt level v
  | (n, v) :: rest =>
    indent level ++ quoted n ++ ": " ++ prettyAt level v ++ ",\n" ++ prettyMembers level rest

end

def pretty (v : Json) : String := prettyAt 0 v

end TemplateBench.Json
