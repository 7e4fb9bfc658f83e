import TemplateBench.Yaml.Tokens

/-!
The tree that a text describes.

* `Node.ofTokens?`-style reading is `Document.read`: one document, with nothing after it.
* An alias is a number; `Document.target?` gives the node that it stands for. Numbers count the
  distinct anchor names met so far, and of two anchors with one number the later one counts.
-/
namespace TemplateBench.Yaml

/-! ## Trees -/

inductive Node
  | scalar (text : String) (plain : Bool) (tag : Option String)
  | sequence (tag : Option String) (items : List Node)
  | mapping (tag : Option String) (entries : List (Node × Node))
  | alias (number : Nat)
  deriving Repr, Inhabited

/-- What stands where a node is left out. -/
def Node.absent : Node := .scalar "" true none

structure Document where
  root : Node
  /-- Anchored nodes by number, in the order in which they begin. -/
  anchored : List (Nat × Node)
  /-- How many pieces the text has: one per scalar and alias, two per collection. -/
  pieces : Nat
  deriving Repr, Inhabited

def Document.target? (d : Document) (number : Nat) : Option Node := d.anchored.reverse.lookup number

/-! ## State -/

structure Progress where
  rest : List Token
  tagFronts : List (String × String) := []
  /-- Anchor names with their numbers, the latest first. -/
  names : List (String × Nat) := []
  anchored : Array (Nat × Node) := #[]
  pieces : Nat := 0
  deriving Inhabited

abbrev Composing (α : Type) := StateT Progress (Except Malformed) α

private def refuse {α : Type} : Composing α := throw .malformed

private def peek : Composing Token := return (← get).rest.headD .streamEnd

private def advance : Composing Unit := modify fun s => { s with rest := s.rest.drop 1 }

private def count (n : Nat) : Composing Unit := modify fun s => { s with pieces := s.pieces + n }

private def distinctNames (names : List (String × Nat)) : Nat := (names.map (·.1)).eraseDups.length

/-! ## Anchors and tags -/

/-- Gives an anchor its number, and the place where its node is to be put. -/
private def openAnchor : Option String → Composing (Option Nat)
  | none => return none
  | some name => do
    let s ← get
    let number := distinctNames s.names
    set { s with names := (name, number) :: s.names, anchored := s.anchored.push (number, .absent) }
    return some s.anchored.size

private def closeAnchor (place : Option Nat) (node : Node) : Composing Unit :=
  match place with
  | none => return ()
  | some n =>
    modify fun s => { s with anchored := s.anchored.modify n fun (number, _) => (number, node) }

private def resolveTag (handle suffix : String) : Composing String := do
  if handle = "" then return suffix
  else match (← get).tagFronts.lookup handle with
    | some tagFront => return tagFront ++ suffix
    | none => refuse

private def readTagMark : Composing (Option String) := do
  match ← peek with
  | .tag handle suffix =>
    advance
    return some (← resolveTag handle suffix)
  | _ => return none

private def readAnchorMark : Composing (Option String) := do
  match ← peek with
  | .anchor name =>
    advance
    return some name
  | _ => return none

/-- An anchor and a tag, in either order. -/
private def readMarks : Composing (Option String × Option String) := do
  match ← readAnchorMark with
  | some name => return (some name, ← readTagMark)
  | none =>
    let tag ← readTagMark
    if tag.isSome then return (← readAnchorMark, tag) else return (none, none)

private def readAlias (name : String) : Composing Node := do
  advance
  count 1
  match (← get).names.lookup name with
  | some number => return .alias number
  | none => refuse

/-! ## Nodes -/

private def isFlowGap (closing : Token) (t : Token) : Bool := t == .flowEntry || t == closing

private def isBlockGap (t : Token) : Bool := t == .key || t == .value || t == .blockEnd

mutual

/-- Reads a node. Block collections may be refused, and a sequence may be allowed to stand at the
level of indentation of the mapping around it. -/
private def readNode : Nat → Bool → Bool → Composing Node
  | 0, _, _ => refuse
  | n + 1, block, level => do
    match ← peek with
    | .alias name => readAlias name
    | _ =>
      let (anchor, tag) ← readMarks
      let place ← openAnchor anchor
      let node ← readContent n block level tag (anchor.isSome || tag.isSome)
      closeAnchor place node
      return node

private def readContent : Nat → Bool → Bool → Option String → Bool → Composing Node
  | 0, _, _, _, _ => refuse
  | n + 1, block, level, tag, marked => do
    match ← peek with
    | .scalar text plain =>
      advance
      count 1
      return .scalar text plain (if tag == some "!" then none else tag)
    | .flowSequenceStart =>
      advance
      count 2
      return .sequence tag (← readFlowItems n true)
    | .flowMappingStart =>
      advance
      count 2
      return .mapping tag (← readFlowEntries n true)
    | .blockEntry =>
      if level then
        count 2
        return .sequence tag (← readLevelItems n)
      else readAbsent tag marked
    | .blockSequenceStart =>
      if block then
        advance
        count 2
        return .sequence tag (← readBlockItems n)
      else readAbsent tag marked
    | .blockMappingStart =>
      if block then
        advance
        count 2
        return .mapping tag (← readBlockEntries n)
      else readAbsent tag marked
    | _ => readAbsent tag marked

/-- A node with marks only. -/
private def readAbsent (tag : Option String) (marked : Bool) : Composing Node := do
  if marked then
    count 1
    return .scalar "" true tag
  else refuse

/-- A node, or nothing where a mark of the collection follows. -/
private def readUnless : Nat → (Token → Bool) → Bool → Bool → Composing Node
  | 0, _, _, _ => refuse
  | n + 1, gap, block, level => do
    if gap (← peek) then
      count 1
      return .absent
    else readNode n block level

private def readBlockItems : Nat → Composing (List Node)
  | 0 => refuse
  | n + 1 => do
    match ← peek with
    | .blockEntry =>
      advance
      let item ← readUnless n (fun t => t == .blockEntry || t == .blockEnd) true false
      return item :: (← readBlockItems n)
    | .blockEnd =>
      advance
      return []
    | _ => refuse

private def readLevelItems : Nat → Composing (List Node)
  | 0 => refuse
  | n + 1 => do
    match ← peek with
    | .blockEntry =>
      advance
      let item ← readUnless n (fun t => t == .blockEntry || isBlockGap t) true false
      return item :: (← readLevelItems n)
    | _ => return []

private def readBlockEntries : Nat → Composing (List (Node × Node))
  | 0 => refuse
  | n + 1 => do
    match ← peek with
    | .key =>
      advance
      let key ← readUnless n isBlockGap true true
      let value ← readEntryValue n isBlockGap true
      return (key, value) :: (← readBlockEntries n)
    | .blockEnd =>
      advance
      return []
    | _ => refuse

/-- The value of an entry, absent where no `:` stands. -/
private def readEntryValue : Nat → (Token → Bool) → Bool → Composing Node
  | 0, _, _ => refuse
  | n + 1, gap, block => do
    match ← peek with
    | .value =>
      advance
      readUnless n gap block block
    | _ =>
      count 1
      return .absent

private def readFlowItems : Nat → Bool → Composing (List Node)
  | 0, _ => refuse
  | n + 1, first => do
    if (← peek) == .flowSequenceEnd then
      advance
      return []
    else
      if !first then
        if (← peek) == .flowEntry then advance else refuse
      match ← peek with
      | .flowSequenceEnd =>
        advance
        return []
      | .key =>
        advance
        count 2
        let pair ← readFlowPair n
        return .mapping none [pair] :: (← readFlowItems n false)
      | _ =>
        let item ← readNode n false false
        return item :: (← readFlowItems n false)

/-- An entry that stands as an item of a flow sequence. A token that follows an absent key is
passed over, whatever it is. -/
private def readFlowPair : Nat → Composing (Node × Node)
  | 0 => refuse
  | n + 1 => do
    let gap := isFlowGap .flowSequenceEnd
    let t ← peek
    let key ← readUnless n (fun t => t == .value || gap t) false false
    if t == .value || gap t then advance
    let value ← readEntryValue n gap false
    return (key, value)

private def readFlowEntries : Nat → Bool → Composing (List (Node × Node))
  | 0, _ => refuse
  | n + 1, first => do
    if (← peek) == .flowMappingEnd then
      advance
      return []
    else
      if !first then
        if (← peek) == .flowEntry then advance else refuse
      let gap := isFlowGap .flowMappingEnd
      match ← peek with
      | .flowMappingEnd =>
        advance
        return []
      | .key =>
        advance
        let key ← readUnless n (fun t => t == .value || gap t) false false
        let value ← readEntryValue n gap false
        return (key, value) :: (← readFlowEntries n false)
      | _ =>
        let key ← readNode n false false
        count 1
        return (key, .absent) :: (← readFlowEntries n false)

end

/-! ## Documents -/

private def addTagFront (handle tagFront : String) : Composing Unit := do
  let s ← get
  if (s.tagFronts.lookup handle).isSome then refuse
  else set { s with tagFronts := s.tagFronts ++ [(handle, tagFront)] }

private def isKnownVersion (major minor : Nat) : Bool := major == 1 && (minor == 1 || minor == 2)

/-- Reads directives; the result says whether there were any. -/
private def readDirectives : Nat → Bool → Bool → Composing Bool
  | 0, _, _ => refuse
  | n + 1, versioned, any => do
    match ← peek with
    | .version major minor =>
      if versioned || !isKnownVersion major minor then refuse
      else
        advance
        readDirectives n true true
    | .tagDirective handle tagFront =>
      addTagFront handle tagFront
      advance
      readDirectives n versioned true
    | _ => return any

private def standardFronts : List (String × String) := [("!", "!"), ("!!", "tag:yaml.org,2002:")]

private def readRoot (fuel : Nat) : Composing Node := do
  let directives ← readDirectives fuel false false
  modify fun s => { s with tagFronts := s.tagFronts ++ standardFronts }
  match ← peek with
  | .documentStart =>
    advance
    match ← peek with
    | .version .. | .tagDirective .. | .documentStart | .documentEnd | .streamEnd =>
      count 1
      return .absent
    | _ => readNode fuel true false
  | .streamEnd =>
    if directives then refuse
    else
      count 1
      return .absent
  | _ => if directives then refuse else readNode fuel true false

/-- Passes the marks that end a document. -/
private def readDocumentEnds : Nat → Composing Unit
  | 0 => return ()
  | n + 1 => do
    if (← peek) == .documentEnd then
      advance
      readDocumentEnds n

/-- The only document of a text; an empty text holds an absent node. -/
def Document.read (text : String) : Except Malformed Document := do
  let ts ← tokens text
  let fuel := 4 * ts.length + 4
  let read : Composing Node := do
    let root ← readRoot fuel
    readDocumentEnds fuel
    if (← peek) == .streamEnd then return root else refuse
  let (root, s) ← read.run { rest := ts }
  return ⟨root, s.anchored.toList, s.pieces⟩

end TemplateBench.Yaml
