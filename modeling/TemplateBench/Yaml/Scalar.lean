import TemplateBench.Decimal.Numeral
import TemplateBench.Yaml.Token

/-!
Reading scalars: plain, quoted and block ones, with the folding of their line breaks.
-/
namespace TemplateBench.Yaml
open Text

/-! ## Folding -/

/-- A first break and the breaks after it, as they appear between two pieces of a scalar. -/
def foldBreaks (first more : List Char) : List Char :=
  if first.head? == some '\n' then (if more.isEmpty then [' '] else more) else first ++ more

/-- Blanks between two pieces of a scalar. -/
structure Gap where
  blanks : List Char := []
  first : List Char := []
  more : List Char := []
  broken : Bool := false
  deriving Repr, Inhabited

def Gap.text (g : Gap) : List Char := if g.broken then foldBreaks g.first g.more else g.blanks

/-- Reads blanks and breaks; `tabAllowed` judges a tab at a column after a break. -/
def readGap (tabAllowed : Nat → Bool) : Nat → Gap → Cursor → Scanning (Gap × Cursor)
  | 0, g, c => .ok (g, c)
  | n + 1, g, c =>
    match c.rest with
    | [] => .ok (g, c)
    | b :: _ =>
      if isSpaceOrTab b then
        if !g.broken then readGap tabAllowed n { g with blanks := g.blanks ++ [b] } (c.skip 1)
        else if b = '\t' && !tabAllowed c.column then fail
        else readGap tabAllowed n g (c.skip 1)
      else if isBreak b then
        let (text, c) := c.readBreak
        if g.broken then readGap tabAllowed n { g with more := g.more ++ text } c
        else readGap tabAllowed n { g with blanks := [], first := text, broken := true } c
      else .ok (g, c)

/-! ## Plain scalars -/

private def isFlowMark (c : Char) : Bool :=
  c == ',' || c == '[' || c == ']' || c == '\x7b' || c == '\x7d'

/-- Reads a piece of a plain scalar without blanks, last character first. -/
private def readPlainPiece (inFlow : Bool) : Nat → List Char → Cursor →
    Scanning (List Char × Cursor)
  | 0, acc, c => .ok (acc, c)
  | n + 1, acc, c =>
    match c.rest with
    | [] => .ok (acc, c)
    | ch :: rest =>
      if isSpaceOrTab ch || isBreak ch then .ok (acc, c)
      else if inFlow && ch = ':' && rest.head?.any (fun d => isFlowMark d || d == '?') then fail
      else if (ch = ':' && endsWithBlank rest) || (inFlow && isFlowMark ch) then .ok (acc, c)
      else readPlainPiece inFlow n (ch :: acc) (c.skip 1)

/-- Reads a plain scalar; `gap` is what precedes the next piece. The last result says whether the
scalar was followed by a line break. -/
private def readPlainFrom (inFlow : Bool) (indent : Int) : Nat → List Char → Gap → Cursor →
    Scanning (List Char × Cursor × Bool)
  | 0, acc, g, c => .ok (acc, c, g.broken)
  | n + 1, acc, g, c =>
    if c.atDocumentMark || c.rest.head? == some '#' then .ok (acc, c, g.broken)
    else do
      let (piece, after) ← readPlainPiece inFlow c.rest.length [] c
      let (acc, g) := if piece.isEmpty then (acc, g) else (piece ++ (g.text.reverse ++ acc), {})
      if after.rest.head?.any (fun b => isSpaceOrTab b || isBreak b) then
        let (g, after) ← readGap (fun column => indent < column) after.rest.length g after
        if !inFlow && (after.column : Int) ≤ indent then return (acc, after, g.broken)
        else readPlainFrom inFlow indent n acc g after
      else return (acc, after, g.broken)

/-- A plain scalar, and whether a line break follows it. -/
def readPlain (inFlow : Bool) (indent : Int) (c : Cursor) : Scanning (String × Cursor × Bool) := do
  let (acc, c, broken) ← readPlainFrom inFlow indent (c.rest.length + 1) [] {} c
  return (String.ofList acc.reverse, c, broken)

/-! ## Quoted scalars -/

private def charOfHex? (ds : List Char) : Option Char := do
  let n ← Decimal.readNat? 16 ds
  if n.isValidChar then some (Char.ofNat n) else none

private def simpleEscape? : Char → Option Char
  | '0' => some '\x00'
  | 'a' => some '\x07'
  | 'b' => some '\x08'
  | 't' => some '\t'
  | '\t' => some '\t'
  | 'n' => some '\n'
  | 'v' => some '\x0b'
  | 'f' => some '\x0c'
  | 'r' => some '\r'
  | 'e' => some '\x1b'
  | ' ' => some ' '
  | '"' => some '"'
  | '/' => some '/'
  | '\\' => some '\\'
  | 'N' => some '\u0085'
  | '_' => some '\u00a0'
  | 'L' => some '\u2028'
  | 'P' => some '\u2029'
  | _ => none

private def escapeWidth? : Char → Option Nat
  | 'x' => some 2
  | 'u' => some 4
  | 'U' => some 8
  | _ => none

/-- The character behind a backslash, and how many characters spell it. -/
private def readQuotedEscape (rest : List Char) : Scanning (Char × Nat) :=
  match rest with
  | [] => fail
  | c :: rest =>
    match simpleEscape? c, escapeWidth? c with
    | some ch, _ => .ok (ch, 1)
    | none, some width =>
      let ds := rest.take width
      match charOfHex? ds with
      | some ch => if ds.length = width then .ok (ch, 1 + width) else fail
      | none => fail
    | none, none => fail

/-- Reads a piece of a quoted scalar without blanks, last character first. The last result says
whether an escaped line break ended it. -/
private def readQuotedPiece (single : Bool) : Nat → List Char → Cursor →
    Scanning (List Char × Cursor × Bool)
  | 0, acc, c => .ok (acc, c, false)
  | n + 1, acc, c =>
    match c.rest with
    | [] => .ok (acc, c, false)
    | ch :: rest =>
      if isSpaceOrTab ch || isBreak ch then .ok (acc, c, false)
      else if single then
        if ch = '\'' then
          if rest.head? == some '\'' then readQuotedPiece single n ('\'' :: acc) (c.skip 2)
          else .ok (acc, c, false)
        else readQuotedPiece single n (ch :: acc) (c.skip 1)
      else if ch = '"' then .ok (acc, c, false)
      else if ch = '\\' then
        if rest.head?.any isBreak then .ok (acc, (c.skip 1).readBreak.2, true)
        else do
          let (e, width) ← readQuotedEscape rest
          readQuotedPiece single n (e :: acc) (c.skip (1 + width))
      else readQuotedPiece single n (ch :: acc) (c.skip 1)

private def readQuotedFrom (single : Bool) : Nat → List Char → Cursor →
    Scanning (List Char × Cursor)
  | 0, _, _ => fail
  | n + 1, acc, c =>
    if c.atDocumentMark || c.rest.isEmpty then fail
    else do
      let (piece, c, escaped) ← readQuotedPiece single c.rest.length [] c
      let acc := piece ++ acc
      if c.rest.head? == some (if single then '\'' else '"') then return (acc, c.skip 1)
      else
        let (g, c) ← readGap (fun _ => true) c.rest.length { broken := escaped } c
        let gap := if escaped then g.more else g.text
        readQuotedFrom single n (gap.reverse ++ acc) c

/-- A quoted scalar, from its opening quote on. -/
def readQuoted (single : Bool) (c : Cursor) : Scanning (String × Cursor) := do
  let (acc, c) ← readQuotedFrom single (c.rest.length + 1) [] (c.skip 1)
  return (String.ofList acc.reverse, c)

/-! ## Block scalars -/

inductive Chomping
  | strip
  | clip
  | keep
  deriving DecidableEq, Repr, Inhabited

private def chomping? : Char → Option Chomping
  | '-' => some .strip
  | '+' => some .keep
  | _ => none

private def indentDigit? (c : Char) : Option (Scanning Nat) :=
  if isAsciiDigit c then some (if c = '0' then fail else .ok (c.toNat - 48)) else none

/-- The indicators after `|` or `>`, in either order. -/
private def readBlockHeader (c : Cursor) : Scanning (Chomping × Nat × Cursor) :=
  match c.rest with
  | a :: rest =>
    match chomping? a, indentDigit? a with
    | some chomping, _ =>
      match rest.head?.bind indentDigit? with
      | some d => do return (chomping, ← d, c.skip 2)
      | none => .ok (chomping, 0, c.skip 1)
    | none, some d =>
      match rest.head?.bind chomping? with
      | some chomping => do return (chomping, ← d, c.skip 2)
      | none => do return (.clip, ← d, c.skip 1)
    | none, none => .ok (.clip, 0, c)
  | [] => .ok (.clip, 0, c)

/-- Passes indentation and empty lines. Of a level that is not known yet, `0`, the deepest column
reached is kept. -/
private def readBlockBreaks (level : Nat) : Nat → Nat → List Char → Cursor →
    Scanning (Nat × List Char × Cursor)
  | 0, deepest, breaks, c => .ok (deepest, breaks, c)
  | n + 1, deepest, breaks, c =>
    let spaces := (c.rest.takeWhile (· == ' ')).length
    let c := c.skip (if level = 0 then spaces else min spaces (level - c.column))
    let deepest := max deepest c.column
    match c.rest with
    | [] => .ok (deepest, breaks, c)
    | b :: _ =>
      if b = '\t' && (level = 0 || c.column < level) then fail
      else if isBreak b then
        let (text, c) := c.readBreak
        readBlockBreaks level n deepest (breaks ++ text) c
      else .ok (deepest, breaks, c)

/-- Reads the lines of a block scalar. `first` and `more` are the breaks before the next line, and
`blank` says whether the line before them began with a blank. -/
private def readBlockLines (folded : Bool) (level : Nat) : Nat → List Char → List Char → List Char →
    Bool → Cursor → Scanning (List Char × List Char × List Char × Cursor)
  | 0, acc, first, more, _, c => .ok (acc, first, more, c)
  | n + 1, acc, first, more, blank, c =>
    if c.column ≠ level || c.rest.isEmpty then .ok (acc, first, more, c)
    else do
      let nextBlank := c.rest.head?.any isSpaceOrTab
      let gap :=
        if folded && first.head? == some '\n' && !blank && !nextBlank then
          (if more.isEmpty then [' '] else more)
        else first ++ more
      let line := c.rest.takeWhile (!isBreak ·)
      let (first, c) := (c.skip line.length).readBreak
      let (_, more, c) ← readBlockBreaks level (c.rest.length + 1) 0 [] c
      readBlockLines folded level n (line.reverse ++ (gap.reverse ++ acc)) first more nextBlank c

/-- A block scalar, from its indicator on, inside a block at the given level. -/
def readBlock (folded : Bool) (indent : Int) (c : Cursor) : Scanning (String × Cursor) := do
  let (chomping, increment, c) ← readBlockHeader (c.skip 1)
  let c ← c.endLine
  let known := if increment = 0 then 0 else (if indent ≥ 0 then indent.toNat + increment else increment)
  let (deepest, more, c) ← readBlockBreaks known (c.rest.length + 1) 0 [] c
  let level := if known = 0 then max (max deepest (indent + 1).toNat) 1 else known
  let (acc, first, more, c) ← readBlockLines folded level (c.rest.length + 1) [] [] more false c
  let tail := match chomping with
    | .strip => []
    | .clip => first
    | .keep => first ++ more
  return (String.ofList (acc.reverse ++ tail), c)

end TemplateBench.Yaml
