import TemplateBench.Decimal.Numeral
import TemplateBench.Jinja.Tree
import TemplateBench.Text.Lines

/-!
Tokens of templates.

* Between texts stand expressions in double braces, statements between brace and percent, and
  comments between brace and hash.
* A `-` beside a delimiter drops the white space on its other side.
* One line break at the end of a template is no part of it.
-/
namespace TemplateBench.Jinja
open Text Decimal

inductive Token
  | data (text : String)
  | emitStart
  | emitEnd
  | blockStart
  | blockEnd
  | name (name : String)
  | string (text : String)
  | int (n : Nat)
  | float (x : Float)
  | mark (text : String)
  | malformed (e : TemplateError)
  deriving Repr, Inhabited

/-! ## Strings -/

/-- Half of a surrogate pair that waits for its other half, `0` for none. -/
abbrev Pending := Nat

private def pushChar (pending : Pending) (acc : List Char) (c : Char) :
    Except TemplateError (Pending × List Char) :=
  if pending = 0 then .ok (0, c :: acc) else .error .badEscape

private def pushUnit (pending : Pending) (acc : List Char) (u : Nat) :
    Except TemplateError (Pending × List Char) :=
  let surrogate := 0xD800 ≤ u && u < 0xE000
  if pending = 0 then
    if surrogate then .ok (u, acc) else .ok (0, Char.ofNat u :: acc)
  else if pending < 0xDC00 && 0xDC00 ≤ u && u < 0xE000 then
    .ok (0, Char.ofNat (0x10000 + (pending - 0xD800) * 1024 + (u - 0xDC00)) :: acc)
  else .error .badEscape

private def escapedChar? : Char → Option Char
  | '"' => some '"'
  | '\\' => some '\\'
  | '/' => some '/'
  | '\'' => some '\''
  | 'b' => some '\x08'
  | 'f' => some '\x0c'
  | 'n' => some '\n'
  | 'r' => some '\r'
  | 't' => some '\t'
  | _ => none

private def unescapeFrom : Nat → Pending → List Char → List Char → Except TemplateError (List Char)
  | 0, _, _, _ => .error .badEscape
  | _ + 1, pending, acc, [] => if pending = 0 then .ok acc.reverse else .error .badEscape
  | n + 1, pending, acc, '\\' :: 'u' :: rest =>
    match readNat? 16 (rest.take 4) with
    | some u =>
      if rest.length < 4 then .error .badEscape
      else do
        let (pending, acc) ← pushUnit pending acc u
        unescapeFrom n pending acc (rest.drop 4)
    | none => .error .badEscape
  | n + 1, pending, acc, '\\' :: c :: rest =>
    match escapedChar? c with
    | some e => do
      let (pending, acc) ← pushChar pending acc e
      unescapeFrom n pending acc rest
    | none => .error .badEscape
  | n + 1, pending, acc, c :: rest => do
    if c = '\\' then throw .badEscape
    let (pending, acc) ← pushChar pending acc c
    unescapeFrom n pending acc rest

def unescape (cs : List Char) : Except TemplateError (List Char) :=
  unescapeFrom (cs.length + 1) 0 [] cs

/-- The text up to a closing quote and what follows it. -/
private def splitQuoted (quote : Char) : List Char → List Char → Option (List Char × List Char)
  | _, [] => none
  | acc, '\\' :: c :: rest => splitQuoted quote (c :: '\\' :: acc) rest
  | acc, c :: rest => if c = quote then some (acc.reverse, rest) else splitQuoted quote (c :: acc) rest

private def readString (quote : Char) (cs : List Char) : Token × List Char :=
  match splitQuoted quote [] cs with
  | none => (.malformed .malformed, [])
  | some (body, rest) =>
    match unescape body with
    | .ok text => (.string (String.ofList text), rest)
    | .error e => (.malformed e, [])

/-! ## Numbers -/

private inductive NumberPart
  | whole
  | fraction
  | exponent
  | signed
  deriving DecidableEq

/-- Splits a decimal literal off; the result says whether it is a whole number. -/
private def splitNumber : NumberPart → List Char → List Char → NumberPart × List Char × List Char
  | part, acc, [] => (part, acc.reverse, [])
  | part, acc, c :: rest =>
    let next : Option NumberPart :=
      if isAsciiDigit c then some (if part = .exponent then .signed else part)
      else if c = '_' then some part
      else if c = '.' && part = .whole then some .fraction
      else if (c = 'e' || c = 'E') && (part = .whole || part = .fraction) then some .exponent
      else if (c = '+' || c = '-') && part = .exponent then some .signed
      else none
    match next with
    | some part => splitNumber part (c :: acc) rest
    | none => (part, acc.reverse, c :: rest)

private def base? : List Char → Option Nat
  | '0' :: b :: _ =>
    if b = 'b' || b = 'B' then some 2
    else if b = 'o' || b = 'O' then some 8
    else if b = 'x' || b = 'X' then some 16
    else none
  | _ => none

private def integerToken (base : Nat) (ds : List Char) : Token :=
  match readNat? base ds with
  | some n => if n < Nat.pow 2 128 then .int n else .malformed .malformed
  | none => .malformed .malformed

private def readNumber (cs : List Char) : Token × List Char :=
  let finish (digits : List Char) (rest : List Char) (make : List Char → Token) :=
    if digits.getLast? == some '_' then (Token.malformed .malformed, rest)
    else (make (digits.filter (· != '_')), rest)
  match base? cs with
  | some base =>
    let (digits, rest) := (cs.drop 2).span fun c =>
      isAsciiDigit c || c == '_' || (base == 16 && (digitValue? 16 c).isSome)
    finish digits rest (integerToken base)
  | none =>
    let (part, digits, rest) := splitNumber .whole [] cs
    finish digits rest fun ds =>
      if part = .whole then integerToken 10 ds
      else match readFloat? ds with
        | some x => .float x
        | none => .malformed .malformed

/-! ## Words and marks -/

private def isNameStart (c : Char) : Bool := isAsciiLetter c || c == '_'

private def isNameRest (c : Char) : Bool := isAsciiAlphanumeric c || c == '_'

private def longMarks : List String := ["//", "**", "==", "!=", ">=", "<="]

private def shortMarks : List Char :=
  ['+', '-', '*', '/', '%', '.', ',', ':', '~', '|', '=', '>', '<', '(', ')', '[', ']', '\x7b', '\x7d']

private def longMark? (cs : List Char) : Option String := longMarks.find? fun m => startsWith cs m.toList

/-- Reads a token inside delimiters. -/
private def readInner (cs : List Char) : Token × List Char :=
  match longMark? cs with
  | some m => (.mark m, cs.drop 2)
  | none =>
    match cs with
    | [] => (.malformed .malformed, [])
    | c :: rest =>
      if shortMarks.contains c then (.mark (String.singleton c), rest)
      else if c = '\'' || c = '"' then readString c rest
      else if isAsciiDigit c then readNumber cs
      else if isNameStart c then
        (.name (String.ofList (cs.takeWhile isNameRest)), cs.dropWhile isNameRest)
      else (.malformed .malformed, [])

/-- How a mark changes the number of open brackets. -/
private def balanceStep : Token → Int
  | .mark m =>
    if m == "(" || m == "[" || m == "\x7b" then 1
    else if m == ")" || m == "]" || m == "\x7d" then -1
    else 0
  | _ => 0

/-! ## Delimiters -/

private inductive Opening
  | emit
  | block
  | comment
  deriving DecidableEq

private def opening? : List Char → Option Opening
  | '\x7b' :: '\x7b' :: _ => some .emit
  | '\x7b' :: '%' :: _ => some .block
  | '\x7b' :: '#' :: _ => some .comment
  | _ => none

private def isSign (c : Char) : Bool := c == '-' || c == '+'

private def dropSign : List Char → List Char
  | c :: rest => if isSign c then rest else c :: rest
  | [] => []

/-- The text up to the next opening delimiter. -/
private def splitData : List Char → List Char → List Char × List Char
  | acc, [] => (acc.reverse, [])
  | acc, c :: rest =>
    if (opening? (c :: rest)).isSome then (acc.reverse, c :: rest) else splitData (c :: acc) rest

private def splitAtFirst (needle : List Char) : List Char → List Char → Option (List Char × List Char)
  | acc, [] => if needle.isEmpty then some (acc.reverse, []) else none
  | acc, c :: rest =>
    match dropFront needle (c :: rest) with
    | some after => some (acc.reverse, after)
    | none => splitAtFirst needle (c :: acc) rest

private def isAsciiBlank (c : Char) : Bool :=
  c == ' ' || c == '\t' || c == '\n' || c == '\x0c' || c == '\r'

/-- Passes a statement of one word after its opening delimiter; the result says whether white
space after it is dropped. -/
private def wordTag? (word : String) (cs : List Char) : Option (Bool × List Char) := do
  let cs ← dropFront word.toList ((dropSign cs).dropWhile isAsciiBlank)
  let cs := cs.dropWhile isAsciiBlank
  let rest ← dropFront ['%', '\x7d'] (dropSign cs)
  return (cs.head? == some '-', rest)

/-- A text that is taken as it is, up to the end mark: the text, whether white space at its end
and after the mark is dropped, and what follows. -/
private def splitRaw : List Char → List Char → Option (List Char × Bool × Bool × List Char)
  | _, [] => none
  | acc, c :: rest =>
    let after := if opening? (c :: rest) == some .block then wordTag? "endraw" (rest.drop 1) else none
    match after with
    | some (trimNext, after) => some (acc.reverse, (rest.drop 1).head? == some '-', trimNext, after)
    | none => splitRaw (c :: acc) rest

private def dataToken (text : List Char) : List Token :=
  if text.isEmpty then [] else [.data (String.ofList text)]

/-! ## Templates -/

/-- Where the reader is: in text, whose first white space may be dropped, or inside delimiters with
a number of open brackets. -/
private inductive Region
  | text (trim : Bool)
  | inside (block : Bool) (balance : Int)

private def closing? (block : Bool) (cs : List Char) : Option (Bool × List Char) :=
  let closing := if block then ['%', '\x7d'] else ['\x7d', '\x7d']
  (dropFront closing (dropSign cs)).map fun rest => (cs.head? == some '-', rest)

private def readFrom : Nat → Region → List Char → List Token
  | 0, _, _ => []
  | n + 1, .text trim, cs =>
    let cs := if trim then trimStart cs else cs
    match opening? cs with
    | some .comment =>
      match splitAtFirst ['#', '\x7d'] [] (cs.drop 2) with
      | some (body, rest) => readFrom n (.text (body.getLast? == some '-')) rest
      | none => [.malformed .malformed]
    | some .emit => .emitStart :: readFrom n (.inside false 0) (dropSign (cs.drop 2))
    | some .block =>
      match wordTag? "raw" (cs.drop 2) with
      | some (trimFirst, rest) =>
        match splitRaw [] rest with
        | some (text, trimLast, trimNext, rest) =>
          let text := if trimFirst then trimStart text else text
          let text := if trimLast then trimEnd text else text
          dataToken text ++ readFrom n (.text trimNext) rest
        | none => [.malformed .malformed]
      | none => .blockStart :: readFrom n (.inside true 0) (dropSign (cs.drop 2))
    | none =>
      if cs.isEmpty then []
      else
        let (text, rest) := splitData [] cs
        let text := if (rest.drop 2).head? == some '-' then trimEnd text else text
        dataToken text ++ readFrom n (.text false) rest
  | n + 1, .inside block balance, cs =>
    let cs := cs.dropWhile isAsciiBlank
    match (if balance = 0 then closing? block cs else none) with
    | some (trim, rest) => (if block then .blockEnd else .emitEnd) :: readFrom n (.text trim) rest
    | none =>
      if cs.isEmpty then []
      else
        let (t, rest) := readInner cs
        match t with
        | .malformed _ => [t]
        | t => t :: readFrom n (.inside block (balance + balanceStep t)) rest

private def dropLast (c : Char) (cs : List Char) : List Char :=
  if cs.getLast? == some c then cs.dropLast else cs

/-- The tokens of a template; a malformed one is the last. -/
def tokens (template : String) : List Token :=
  let cs := dropLast '\r' (dropLast '\n' template.toList)
  readFrom (2 * cs.length + 2) (.text false) cs

end TemplateBench.Jinja
