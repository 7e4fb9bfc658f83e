import TemplateBench.Yaml.Properties
import TemplateBench.Yaml.Scalar

/-!
Cutting a text into tokens. A simple key is known as a key only when its `:` is met; the tokens
that open it are then inserted where it began.
-/
namespace TemplateBench.Yaml
open Text
namespace Scan

/-! ## Between tokens -/

/-- Tabs do not separate tokens where they could be taken for indentation. -/
private def skipGap : Nat → Scan → Scan
  | 0, s => s
  | n + 1, s =>
    let tabs := s.inFlow || !s.keyAllowed
    let c := s.cursor.skipWhile fun ch => ch == ' ' || (tabs && ch == '\t')
    let c := if c.rest.head? == some '#' then c.skipWhile (!isBreak ·) else c
    if c.rest.head?.any isBreak then
      skipGap n { s with cursor := c.readBreak.2, keyAllowed := s.keyAllowed || !s.inFlow }
    else { s with cursor := c }

/-! ## Marks -/

private def skip (n : Nat) (s : Scan) : Scan := { s with cursor := s.cursor.skip n }

private def allowKey (b : Bool) (s : Scan) : Scan := { s with keyAllowed := b }

private def readStreamEnd (s : Scan) : Scanning Scan := do
  let s ← (s.unrollIndent (-1)).removeKey
  return s.push .streamEnd

private def readDirectiveLine (s : Scan) : Scanning Scan := do
  let s ← (s.unrollIndent (-1)).removeKey
  let (t, c) ← readDirective s.cursor
  return { s with cursor := c, keyAllowed := false }.push t

private def readDocumentMark (t : Token) (s : Scan) : Scanning Scan := do
  let s ← (s.unrollIndent (-1)).removeKey
  return ((s.allowKey false).push t).skip 3

private def openFlow (t : Token) (s : Scan) : Scanning Scan := do
  let s ← s.saveKey
  return (({ s with keys := none :: s.keys }.allowKey true).push t).skip 1

private def closeFlow (t : Token) (s : Scan) : Scanning Scan := do
  let s ← s.removeKey
  let keys := if s.inFlow then s.keys.drop 1 else s.keys
  return (({ s with keys }.allowKey false).push t).skip 1

private def readFlowEntry (s : Scan) : Scanning Scan := do
  let s ← s.removeKey
  return ((s.allowKey true).push .flowEntry).skip 1

/-- A mark that may open a block collection stands where a key may stand. -/
private def openBlock (t : Token) (s : Scan) : Scanning Scan :=
  if s.inFlow then .ok s
  else if s.keyAllowed then .ok (s.rollIndent s.cursor.column none t)
  else fail

private def readBlockEntry (s : Scan) : Scanning Scan := do
  let s ← s.openBlock .blockSequenceStart
  let s ← s.removeKey
  return ((s.allowKey true).push .blockEntry).skip 1

private def readKey (s : Scan) : Scanning Scan := do
  let s ← s.openBlock .blockMappingStart
  let s ← s.removeKey
  return ((s.allowKey !s.inFlow).push .key).skip 1

private def readValue (s : Scan) : Scanning Scan := do
  match s.keys with
  | some k :: rest =>
    let s := s.insertAt k.token .key
    let s := s.rollIndent k.column (some k.token) .blockMappingStart
    return (({ s with keys := none :: rest }.allowKey false).push .value).skip 1
  | _ =>
    let s ← s.openBlock .blockMappingStart
    return ((s.allowKey !s.inFlow).push .value).skip 1

/-! ## Words -/

private def readAnchor (make : String → Token) (s : Scan) : Scanning Scan := do
  let s ← s.saveKey
  let (name, c) ← readName (s.cursor.skip 1)
  return { s with cursor := c, keyAllowed := false }.push (make name)

private def readTagged (s : Scan) : Scanning Scan := do
  let s ← s.saveKey
  let (t, c) ← readTag s.inFlow s.cursor
  return { s with cursor := c, keyAllowed := false }.push t

private def readBlockScalar (folded : Bool) (s : Scan) : Scanning Scan := do
  let s ← s.removeKey
  let (text, c) ← readBlock folded s.indent s.cursor
  return { s with cursor := c, keyAllowed := true }.push (.scalar text false)

private def readQuotedScalar (single : Bool) (s : Scan) : Scanning Scan := do
  let s ← s.saveKey
  let (text, c) ← readQuoted single s.cursor
  return { s with cursor := c, keyAllowed := false }.push (.scalar text false)

private def readPlainScalar (s : Scan) : Scanning Scan := do
  let s ← s.saveKey
  let (text, c, broken) ← readPlain s.inFlow s.indent s.cursor
  return { s with cursor := c, keyAllowed := broken }.push (.scalar text true)

/-! ## Tokens -/

private def isIndicator (c : Char) : Bool :=
  c == '-' || c == '?' || c == ':' || c == ',' || c == '[' || c == ']' || c == '\x7b' ||
    c == '\x7d' || c == '#' || c == '&' || c == '*' || c == '!' || c == '|' || c == '>' ||
    c == '\'' || c == '"' || c == '%' || c == '@' || c == '\x60'

private def beginsPlain (inFlow : Bool) (c : Char) (rest : List Char) : Bool :=
  !(isIndicator c || isSpaceOrTab c || isBreak c) || (c == '-' && !rest.head?.any isSpaceOrTab) ||
    (!inFlow && (c == '?' || c == ':') && !endsWithBlank rest)

/-- Reads the token at the cursor, which stands behind all blanks. -/
private def readToken (s : Scan) : Scanning Scan :=
  match s.cursor.rest with
  | [] => readStreamEnd s
  | c :: rest =>
    if s.cursor.column = 0 && c = '%' then readDirectiveLine s
    else if s.cursor.atDocumentMark then
      readDocumentMark (if c = '-' then .documentStart else .documentEnd) s
    else if c = '[' then openFlow .flowSequenceStart s
    else if c = '\x7b' then openFlow .flowMappingStart s
    else if c = ']' then closeFlow .flowSequenceEnd s
    else if c = '\x7d' then closeFlow .flowMappingEnd s
    else if c = ',' then readFlowEntry s
    else if c = '-' && endsWithBlank rest then readBlockEntry s
    else if c = '?' && (s.inFlow || endsWithBlank rest) then readKey s
    else if c = ':' && (s.inFlow || endsWithBlank rest) then readValue s
    else if c = '*' then readAnchor .alias s
    else if c = '&' then readAnchor .anchor s
    else if c = '!' then readTagged s
    else if c = '|' && !s.inFlow then readBlockScalar false s
    else if c = '>' && !s.inFlow then readBlockScalar true s
    else if c = '\'' then readQuotedScalar true s
    else if c = '"' then readQuotedScalar false s
    else if beginsPlain s.inFlow c rest then readPlainScalar s
    else fail

private def readNext (s : Scan) : Scanning Scan := do
  let s ← (s.skipGap (s.cursor.rest.length + 1)).dropStaleKeys
  readToken (s.unrollIndent s.cursor.column)

private def readAll : Nat → Scan → Scanning (Array Token)
  | 0, _ => fail
  | n + 1, s => do
    let done := s.tokens.back? == some .streamEnd
    if done then return s.tokens else readAll n (← s.readNext)

end Scan

private def dropMark : List Char → List Char
  | '\ufeff' :: rest => rest
  | cs => cs

/-- The tokens of a text. A byte order mark may begin it; it may hold printable characters only. -/
def tokens (text : String) : Scanning (List Token) :=
  let cs := dropMark text.toList
  if cs.all isAllowed then do
    return (← Scan.readAll (cs.length + 2) ⟨⟨cs, 0, 0, 0⟩, #[], [-1], true, [none]⟩).toList
  else fail

end TemplateBench.Yaml
