import TemplateBench.Text.Letters

/-!
Tokens of YAML, and the state in which a text is cut into them.

* `Token` are the pieces that the grammar is written in; block structure shows in the columns of
  the text, and is made explicit by start and end tokens.
* `Cursor` is a place in the text, `Scan` what has been read so far: the tokens, the levels of
  indentation, and the places where a simple key may have begun.
-/
namespace TemplateBench.Yaml
open Text

/-! ## Tokens -/

inductive Token
  | streamEnd
  | version (major minor : Nat)
  | tagDirective (handle tagFront : String)
  | documentStart
  | documentEnd
  | blockSequenceStart
  | blockMappingStart
  | blockEnd
  | flowSequenceStart
  | flowSequenceEnd
  | flowMappingStart
  | flowMappingEnd
  | blockEntry
  | flowEntry
  | key
  | value
  | alias (name : String)
  | anchor (name : String)
  | tag (handle suffix : String)
  | scalar (text : String) (plain : Bool)
  deriving DecidableEq, Repr, Inhabited

/-- A malformed text. -/
inductive Malformed
  | malformed
  deriving DecidableEq, Repr, Inhabited

/-- One text for all malformed texts, without the place and the reason. -/
def Malformed.message : Malformed → String
  | .malformed => "<yaml error>"

abbrev Scanning (α : Type) := Except Malformed α

def fail {α : Type} : Scanning α := .error .malformed

/-! ## Characters -/

def isBreak (c : Char) : Bool :=
  c == '\n' || c == '\r' || c.toNat == 0x85 || c.toNat == 0x2028 || c.toNat == 0x2029

def isSpaceOrTab (c : Char) : Bool := c == ' ' || c == '\t'

/-- The characters of anchors and tag handles. -/
def isNameChar (c : Char) : Bool := isAsciiAlphanumeric c || c == '_' || c == '-'

/-- What a text may hold. -/
def isAllowed (c : Char) : Bool :=
  let n := c.toNat
  n == 9 || n == 10 || n == 13 || (0x20 ≤ n && n ≤ 0x7E) || n == 0x85 ||
    (0xA0 ≤ n && n ≤ 0xD7FF) || (0xE000 ≤ n && n ≤ 0xFFFD) || 0x10000 ≤ n

def endsWithBreak : List Char → Bool
  | [] => true
  | c :: _ => isBreak c

def endsWithBlank : List Char → Bool
  | [] => true
  | c :: _ => isSpaceOrTab c || isBreak c

/-! ## Places -/

structure Cursor where
  rest : List Char
  index : Nat := 0
  line : Nat := 0
  column : Nat := 0
  deriving Repr, Inhabited

namespace Cursor

/-- Passes characters that are no line break. -/
def skip (n : Nat) (c : Cursor) : Cursor :=
  { c with rest := c.rest.drop n, index := c.index + n, column := c.column + n }

/-- Passes a line break, and gives it as it counts in a scalar. -/
def readBreak (c : Cursor) : List Char × Cursor :=
  match c.rest with
  | '\r' :: '\n' :: rest => (['\n'], ⟨rest, c.index + 2, c.line + 1, 0⟩)
  | b :: rest =>
    if isBreak b then
      (if b.toNat = 0x2028 || b.toNat = 0x2029 then [b] else ['\n'], ⟨rest, c.index + 1, c.line + 1, 0⟩)
    else ([], c)
  | [] => ([], c)

def skipWhile (p : Char → Bool) (c : Cursor) : Cursor := c.skip (c.rest.takeWhile p).length

/-- A line of three marks at the start of a line begins or ends a document. -/
def atDocumentMark (c : Cursor) : Bool :=
  c.column == 0 &&
    (match c.rest with
      | '-' :: '-' :: '-' :: rest => endsWithBlank rest
      | '.' :: '.' :: '.' :: rest => endsWithBlank rest
      | _ => false)

/-- Passes blanks, a comment and the line break after them; nothing else may stand there. -/
def endLine (c : Cursor) : Scanning Cursor :=
  let c := c.skipWhile isSpaceOrTab
  let c := if c.rest.head? == some '#' then c.skipWhile (!isBreak ·) else c
  if endsWithBreak c.rest then .ok c.readBreak.2 else fail

end Cursor

/-! ## State -/

/-- Where a simple key may have begun; a required one stands at the level of indentation. -/
structure SimpleKey where
  token : Nat
  required : Bool
  index : Nat
  line : Nat
  column : Nat
  deriving DecidableEq, Repr, Inhabited

structure Scan where
  cursor : Cursor
  tokens : Array Token := #[]
  /-- Levels of indentation, innermost first; the outermost is `-1`. -/
  indents : List Int := [-1]
  keyAllowed : Bool := true
  /-- One entry per flow collection around the cursor, innermost first, and one for the block. -/
  keys : List (Option SimpleKey) := [none]
  deriving Repr, Inhabited

namespace Scan

def inFlow (s : Scan) : Bool := s.keys.length > 1

def indent (s : Scan) : Int := s.indents.headD (-1)

def push (t : Token) (s : Scan) : Scan := { s with tokens := s.tokens.push t }

def insertAt (n : Nat) (t : Token) (s : Scan) : Scan :=
  { s with tokens := s.tokens.insertIdxIfInBounds n t }

/-- Opens a block collection at a column that lies deeper than the current level. -/
def rollIndent (column : Nat) (place : Option Nat) (t : Token) (s : Scan) : Scan :=
  if s.inFlow || s.indent ≥ column then s
  else
    let s := { s with indents := (column : Int) :: s.indents }
    match place with
    | some n => s.insertAt n t
    | none => s.push t

private def unrollFrom (column : Int) : List Int → Array Token → List Int × Array Token
  | [], tokens => ([], tokens)
  | i :: rest, tokens =>
    if i > column then unrollFrom column rest (tokens.push .blockEnd) else (i :: rest, tokens)

/-- Closes the block collections that lie deeper than a column. -/
def unrollIndent (column : Int) (s : Scan) : Scan :=
  if s.inFlow then s
  else
    let (indents, tokens) := unrollFrom column s.indents s.tokens
    { s with indents, tokens }

/-- Gives up the innermost simple key, unless it is required. -/
def removeKey (s : Scan) : Scanning Scan :=
  match s.keys with
  | some k :: rest => if k.required then fail else .ok { s with keys := none :: rest }
  | _ => .ok s

/-- Notes that a simple key may begin here. -/
def saveKey (s : Scan) : Scanning Scan :=
  if !s.keyAllowed then .ok s
  else do
    let s ← s.removeKey
    let c := s.cursor
    let required := !s.inFlow && s.indent == (c.column : Int)
    return { s with keys := some ⟨s.tokens.size, required, c.index, c.line, c.column⟩ :: s.keys.drop 1 }

private def isStale (c : Cursor) (k : SimpleKey) : Bool :=
  k.line < c.line || k.index + 1024 < c.index

/-- A simple key stays on one line and within 1024 characters. -/
def dropStaleKeys (s : Scan) : Scanning Scan := do
  let keys ← s.keys.mapM fun k =>
    match k with
    | some k =>
      if isStale s.cursor k then (if k.required then fail else .ok none) else .ok (some k)
    | none => .ok none
  return { s with keys }

end Scan

end TemplateBench.Yaml
