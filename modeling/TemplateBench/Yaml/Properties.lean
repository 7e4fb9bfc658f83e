import TemplateBench.Decimal.Numeral
import TemplateBench.Yaml.Token

/-!
Reading what stands beside the scalars: anchors and aliases, tags, and directives.
-/
namespace TemplateBench.Yaml
open Text

/-! ## Names -/

private def isNameEnd (c : Char) : Bool :=
  isSpaceOrTab c || isBreak c || c == '?' || c == ':' || c == ',' || c == ']' || c == '\x7d' ||
    c == '%' || c == '@' || c == '\x60'

/-- The name of an anchor or alias, after its mark. -/
def readName (c : Cursor) : Scanning (String × Cursor) :=
  let name := c.rest.takeWhile isNameChar
  let c := c.skip name.length
  if name.isEmpty || !(c.rest.head?.all isNameEnd) then fail else .ok (String.ofList name, c)

/-! ## Tags -/

private def isUriMark (c : Char) : Bool :=
  c == ';' || c == '/' || c == '?' || c == ':' || c == '@' || c == '&' || c == '=' || c == '+' ||
    c == '$' || c == '.' || c == '!' || c == '~' || c == '*' || c == '\'' || c == '(' || c == ')'

/-- The characters of a tag; the last three only where a tag is delimited otherwise. -/
private def isUriChar (delimited : Bool) (c : Char) : Bool :=
  isNameChar c || isUriMark c || (delimited && (c == ',' || c == '[' || c == ']'))

private def readByte (cs : List Char) : Scanning (Nat × List Char) :=
  match cs with
  | '%' :: a :: b :: rest =>
    match Decimal.digitValue? 16 a, Decimal.digitValue? 16 b with
    | some x, some y => .ok (16 * x + y, rest)
    | _, _ => fail
  | _ => fail

/-- How many bytes follow the first one of a character, and the bits that the first one holds. -/
private def leadByte (b : Nat) : Scanning (Nat × Nat) :=
  if b < 0x80 then .ok (0, b)
  else if 0xC0 ≤ b && b < 0xE0 then .ok (1, b % 32)
  else if 0xE0 ≤ b && b < 0xF0 then .ok (2, b % 16)
  else if 0xF0 ≤ b && b < 0xF8 then .ok (3, b % 8)
  else fail

private def readMoreBytes : Nat → Nat → List Char → Scanning (Nat × List Char)
  | 0, code, cs => .ok (code, cs)
  | n + 1, code, cs => do
    let (b, rest) ← readByte cs
    if b / 64 = 2 then readMoreBytes n (64 * code + b % 64) rest else fail

/-- The character spelt by a run of escaped bytes, and how many characters spell it. -/
private def readEscapedChar (cs : List Char) : Scanning (Char × Nat) := do
  let (b, rest) ← readByte cs
  let (more, bits) ← leadByte b
  let (code, _) ← readMoreBytes more bits rest
  return (if code.isValidChar then Char.ofNat code else '\ufffd', 3 * (more + 1))

private def readUriFrom (delimited : Bool) : Nat → List Char → Cursor → Scanning (List Char × Cursor)
  | 0, acc, c => .ok (acc.reverse, c)
  | n + 1, acc, c =>
    match c.rest with
    | [] => .ok (acc.reverse, c)
    | ch :: _ =>
      if ch = '%' then do
        let (e, width) ← readEscapedChar c.rest
        readUriFrom delimited n (e :: acc) (c.skip width)
      else if isUriChar delimited ch then readUriFrom delimited n (ch :: acc) (c.skip 1)
      else .ok (acc.reverse, c)

private def readUri (delimited : Bool) (c : Cursor) : Scanning (List Char × Cursor) :=
  readUriFrom delimited c.rest.length [] c

private def readNonemptyUri (delimited : Bool) (c : Cursor) : Scanning (List Char × Cursor) := do
  let (uri, c) ← readUri delimited c
  if uri.isEmpty then fail else return (uri, c)

/-- The handle of a tag, as far as it can be told: `!`, `!word` or `!word!`. -/
private def readHandle (c : Cursor) : Scanning (List Char × Cursor) :=
  match c.rest with
  | '!' :: rest =>
    let word := rest.takeWhile isNameChar
    let c := c.skip (1 + word.length)
    if c.rest.head? == some '!' then .ok ('!' :: word ++ ['!'], c.skip 1) else .ok ('!' :: word, c)
  | _ => fail

private def isFullHandle (handle : List Char) : Bool :=
  handle.length > 1 && handle.getLast? == some '!'

private def readTagBody (c : Cursor) : Scanning (Token × Cursor) :=
  if (c.rest.drop 1).head? == some '<' then do
    let (uri, c) ← readNonemptyUri true (c.skip 2)
    if c.rest.head? == some '>' then return (.tag "" (String.ofList uri), c.skip 1) else fail
  else do
    let (handle, c) ← readHandle c
    if isFullHandle handle then
      let (uri, c) ← readNonemptyUri false c
      return (.tag (String.ofList handle) (String.ofList uri), c)
    else
      let (uri, c) ← readUri false c
      let suffix := handle.drop 1 ++ uri
      return (if suffix.isEmpty then .tag "" "!" else .tag "!" (String.ofList suffix), c)

def readTag (inFlow : Bool) (c : Cursor) : Scanning (Token × Cursor) := do
  let (t, c) ← readTagBody c
  if endsWithBlank c.rest || (inFlow && c.rest.head? == some ',') then return (t, c) else fail

/-! ## Directives -/

private def readVersionNumber (c : Cursor) : Scanning (Nat × Cursor) :=
  let ds := c.rest.takeWhile isAsciiDigit
  if ds.isEmpty || ds.length > 9 then fail
  else .ok (ds.foldl (fun n d => 10 * n + (d.toNat - 48)) 0, c.skip ds.length)

private def readVersion (c : Cursor) : Scanning (Token × Cursor) := do
  let (major, c) ← readVersionNumber (c.skipWhile isSpaceOrTab)
  if c.rest.head? == some '.' then
    let (minor, c) ← readVersionNumber (c.skip 1)
    return (.version major minor, c)
  else fail

private def readTagDirective (c : Cursor) : Scanning (Token × Cursor) := do
  let (handle, c) ← readHandle (c.skipWhile isSpaceOrTab)
  if !(isFullHandle handle || handle == ['!']) then fail
  else if !(c.rest.head?.any isSpaceOrTab) then fail
  else
    let (uri, c) ← readNonemptyUri true (c.skipWhile isSpaceOrTab)
    if endsWithBlank c.rest then return (.tagDirective (String.ofList handle) (String.ofList uri), c)
    else fail

/-- A directive, from its mark to the end of its line. -/
def readDirective (c : Cursor) : Scanning (Token × Cursor) := do
  let c := c.skip 1
  let name := c.rest.takeWhile isNameChar
  let c := c.skip name.length
  if !endsWithBlank c.rest then fail
  else
    let (t, c) ←
      if name == "YAML".toList then readVersion c
      else if name == "TAG".toList then readTagDirective c
      else fail
    return (t, ← c.endLine)

end TemplateBench.Yaml
