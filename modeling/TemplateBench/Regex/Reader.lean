import TemplateBench.Decimal.Numeral
import TemplateBench.Regex.Pattern

/-!
Reading a regular expression.

* `read` turns a written expression into a `Pattern` with its group names, or finds it malformed.
* Flags hold from where they are set to the end of the group around them, and are applied while
  reading, so that a pattern has none.
* No nesting goes deeper than `nestLimit`.
* Of the properties of characters, only those of `property?` are known: an expression that names
  another one, such as a general category or a script, counts as malformed.
-/
namespace TemplateBench.Regex
open Text Decimal

/-! ## State -/

structure Flags where
  caseless : Bool := false
  multiline : Bool := false
  dotAll : Bool := false
  swapGreed : Bool := false
  unicode : Bool := true
  crlf : Bool := false
  verbose : Bool := false
  deriving DecidableEq, Repr, Inhabited

/-- What is still to be read, the flags in force and the groups opened so far, last first. -/
structure Cursor where
  rest : List Char
  flags : Flags := {}
  groups : List (Option String) := []
  deriving Repr, Inhabited

/-- A written piece and how deep it nests. -/
structure Piece where
  pattern : Pattern
  depth : Nat := 0
  deriving Repr, Inhabited

/-- A malformed expression. -/
inductive Malformed
  | malformed
  deriving DecidableEq, Repr, Inhabited

abbrev Reading (α : Type) := Except Malformed α

def fail {α : Type} : Reading α := .error .malformed

def nestLimit : Nat := 250

/-! ## Blanks between tokens -/

def skipComment : List Char → List Char
  | [] => []
  | '\n' :: rest => rest
  | _ :: rest => skipComment rest

/-- Drops white space and comments. -/
def skipSpace : Nat → List Char → List Char
  | 0, cs => cs
  | _, [] => []
  | n + 1, c :: rest =>
    if isBlank c then skipSpace n rest
    else if c = '#' then skipSpace n (skipComment rest)
    else c :: rest

/-- The next characters that count: a verbose expression may be spaced out. -/
def settle (flags : Flags) (cs : List Char) : List Char :=
  if flags.verbose then skipSpace cs.length cs else cs

/-- The characters after the first one and its trailing space. -/
def after (flags : Flags) (cs : List Char) : List Char := settle flags (cs.drop 1)

/-! ## Numbers -/

def digitsOf (flags : Flags) : Nat → List Char → List Char × List Char
  | n + 1, c :: rest =>
    if isAsciiDigit c then
      let (ds, rest) := digitsOf flags n (settle flags rest)
      (c :: ds, rest)
    else ([], c :: rest)
  | _, cs => ([], cs)

/-- A count inside braces; `none` stands for no digits. -/
def readCount (flags : Flags) (cs : List Char) : Reading (Option Nat × List Char) :=
  let (ds, rest) := digitsOf flags cs.length (cs.dropWhile isBlank)
  let rest := settle flags (rest.dropWhile isBlank)
  if ds.isEmpty then .ok (none, rest)
  else if natOfDigits ds < 4294967296 then .ok (some (natOfDigits ds), rest)
  else fail

def charOfCode? (n : Nat) : Option Char :=
  if n.isValidChar then some (Char.ofNat n) else none

def takeHex (flags : Flags) : Nat → List Char → Reading (List Char × List Char)
  | 0, cs => .ok ([], cs)
  | n + 1, c :: rest => do
    let (ds, rest) ← takeHex flags n (settle flags rest)
    return (c :: ds, rest)
  | _ + 1, [] => fail

/-- The characters up to the first one that is none of `p`, which has to be `stop`, and the text
after it. -/
def readUpTo (p : Char → Bool) (stop : Char) (cs : List Char) : Reading (List Char × List Char) :=
  match cs.span p with
  | (front, c :: rest) => if c = stop then .ok (front, rest) else fail
  | (_, []) => fail

/-- The digits of a character: a fixed number, or as many as there are between braces. -/
def readHexDigits (flags : Flags) (width : Nat) (cs : List Char) :
    Reading (List Char × List Char) :=
  match cs with
  | '{' :: body => do
    let (ds, rest) ← readUpTo (· ≠ '}') '}' body
    return ((if flags.verbose then ds.filter (!isBlank ·) else ds), settle flags rest)
  | _ => takeHex flags width cs

/-- The character numbered after `\x`, `\u` or `\U`. -/
def readHex (flags : Flags) (width : Nat) (cs : List Char) : Reading (Char × List Char) := do
  let (ds, rest) ← readHexDigits flags width cs
  if ds.isEmpty then fail
  else match (readNat? 16 ds).bind charOfCode? with
    | some c => return (c, rest)
    | none => fail

/-! ## Escapes -/

/-- What a backslash sequence stands for. -/
inductive Escape
  | char (c : Char) (numbered : Bool)
  | set (s : CharSet)
  | look (l : Look)
  deriving Repr, Inhabited

def isMeta (c : Char) : Bool :=
  "\\.+*?()|[]\x7b\x7d^$#&-~".toList.contains c

def isEscapable (c : Char) : Bool :=
  c.toNat < 128 && !isAsciiAlphanumeric c && c != '<' && c != '>'

def classLetter (flags : Flags) (c : Char) : Option (CharSet × Bool) :=
  match c with
  | 'd' => some (if flags.unicode then .digit else CharSet.asciiDigit, false)
  | 's' => some (if flags.unicode then .blank else CharSet.asciiBlank, false)
  | 'w' => some (if flags.unicode then .word else CharSet.asciiWord, false)
  | 'D' => some (if flags.unicode then .digit else CharSet.asciiDigit, true)
  | 'S' => some (if flags.unicode then .blank else CharSet.asciiBlank, true)
  | 'W' => some (if flags.unicode then .word else CharSet.asciiWord, true)
  | _ => none

/-- Without Unicode a complement would match parts of characters. -/
def complement (flags : Flags) (negated : Bool) (s : CharSet) : Reading CharSet :=
  if !negated then .ok s else if flags.unicode then .ok (.compl s) else fail

def foldCase (flags : Flags) (s : CharSet) : CharSet :=
  if !flags.caseless then s
  else if flags.unicode then .folded s
  else .inter (.folded s) (.span '\x00' '\x7f')

/-- Properties that a class may name, spelled without case, blanks, hyphens and underscores. Letters
of one case, general categories other than `Nd` and scripts are not among them. -/
def property? (name : String) : Option CharSet :=
  let plain := String.ofList (lower (name.toList.filter fun c => !(isBlank c || c == '-' || c == '_')))
  match plain with
  | "any" => some CharSet.any
  | "ascii" => some (.span '\x00' '\x7f')
  | "alphabetic" | "alpha" => some (.union (.named alphabeticSpans) (CharSet.ofSpans [('A', 'Z'), ('a', 'z')]))
  | "nd" | "decimalnumber" | "digit" => some .digit
  | "whitespace" | "space" | "wspace" => some .blank
  | "word" => some .word
  | _ => none

/-- The name of a property: one character, or what stands between braces. -/
def readPropertyName (flags : Flags) (cs : List Char) : Reading (List Char × List Char) :=
  match cs with
  | [] => fail
  | c :: rest =>
    match c with
    | '{' => readUpTo (· ≠ '}') '}' rest
    | '\\' => fail
    | _ => .ok ([c], settle flags rest)

def readProperty (flags : Flags) (negated : Bool) (cs : List Char) :
    Reading (Escape × List Char) := do
  let (name, rest) ← readPropertyName flags cs
  let (name, negated) := match name with
    | '^' :: name => (name, !negated)
    | _ => (name, negated)
  if !flags.unicode then fail
  else match property? (String.ofList name) with
    | some s => return (.set (if negated then .compl (foldCase flags s) else foldCase flags s), rest)
    | none => fail

def isBoundaryLetter (c : Char) : Bool := isAsciiLetter c || c == '-'

/-- The boundary of a given name. -/
def boundaryOf? (flags : Flags) (name : String) : Option Look :=
  match name with
  | "start" => some (.wordStart flags.unicode)
  | "end" => some (.wordStop flags.unicode)
  | "start-half" => some (.wordStartHalf flags.unicode)
  | "end-half" => some (.wordStopHalf flags.unicode)
  | _ => none

/-- The name of a boundary up to its closing brace. -/
def readBoundaryName (flags : Flags) (cs : List Char) : Reading (Look × List Char) := do
  let (name, rest) ← readUpTo (fun c => isBoundaryLetter c || (flags.verbose && isBlank c)) '}' cs
  match boundaryOf? flags (String.ofList (name.filter isBoundaryLetter)) with
  | some l => return (l, rest)
  | none => fail

/-- A boundary may be narrowed by a name in braces; otherwise the brace starts a repetition. -/
def readBoundary (flags : Flags) (cs : List Char) : Reading (Escape × List Char) :=
  match cs with
  | '{' :: body =>
    match settle flags body with
    | [] => fail
    | c :: body =>
      if isBoundaryLetter c then do
        let (l, rest) ← readBoundaryName flags (c :: body)
        return (.look l, rest)
      else .ok (.look (.boundary flags.unicode), cs)
  | _ => .ok (.look (.boundary flags.unicode), cs)

/-- Reads what follows a backslash. -/
def readEscape (flags : Flags) (cs : List Char) : Reading (Escape × List Char) :=
  match cs with
  | [] => fail
  | c :: rest =>
    match classLetter flags c with
    | some (s, negated) => do return (.set (← complement flags negated s), rest)
    | none =>
      let hex (width : Nat) := do
        let (c, rest) ← readHex flags width (settle flags rest)
        return (Escape.char c true, rest)
      match c with
      | 'x' => hex 2
      | 'u' => hex 4
      | 'U' => hex 8
      | 'p' => readProperty flags false (settle flags rest)
      | 'P' => readProperty flags true (settle flags rest)
      | 'a' => .ok (.char '\x07' false, rest)
      | 'f' => .ok (.char '\x0c' false, rest)
      | 't' => .ok (.char '\t' false, rest)
      | 'n' => .ok (.char '\n' false, rest)
      | 'r' => .ok (.char '\r' false, rest)
      | 'v' => .ok (.char '\x0b' false, rest)
      | 'A' => .ok (.look .start, rest)
      | 'z' => .ok (.look .stop, rest)
      | 'b' => readBoundary flags rest
      | 'B' => .ok (.look (.inside flags.unicode), rest)
      | '<' => .ok (.look (.wordStart flags.unicode), rest)
      | '>' => .ok (.look (.wordStop flags.unicode), rest)
      | _ => if isMeta c || isEscapable c then .ok (.char c false, rest) else fail

/-! ## Character classes -/

/-- A set under construction and how deep it nests. -/
structure SetPiece where
  set : CharSet
  depth : Nat := 0
  deriving Repr, Inhabited

inductive SetOperator
  | inter
  | diff
  | xor
  deriving DecidableEq, Repr, Inhabited

def SetOperator.apply : SetOperator → CharSet → CharSet → CharSet
  | .inter, s, t => .inter s t
  | .diff, s, t => .diff s t
  | .xor, s, t => CharSet.xor s t

def unionOf : List SetPiece → SetPiece
  | [] => ⟨.none, 0⟩
  | [p] => p
  | ps => ⟨(ps.tail.foldl (fun s p => .union s p.set) (ps.headD ⟨.none, 0⟩).set),
      1 + ps.foldl (fun d p => max d p.depth) 0⟩

/-- Closes the operand read last against the operator before it. -/
def closeOperand (flags : Flags) (pending : Option (SetOperator × SetPiece))
    (items : List SetPiece) : SetPiece :=
  let right := unionOf items.reverse
  match pending with
  | none => right
  | some (op, left) =>
    ⟨op.apply (foldCase flags left.set) (foldCase flags right.set), 1 + max left.depth right.depth⟩

/-- The name of a class up to the `:]` that ends it. -/
def asciiName? (cs : List Char) : Option (List Char × List Char) :=
  match cs.span (· ≠ ':') with
  | (name, ':' :: ']' :: rest) => some (name, rest)
  | _ => none

def namedClass? (flags : Flags) (negated : Bool) (cs : List Char) :
    Option (Reading CharSet × List Char) :=
  (asciiName? cs).bind fun (name, rest) =>
    (CharSet.ascii? (String.ofList name)).map fun s => (complement flags negated s, rest)

/-- `[:name:]` or `[:^name:]`, if that is what stands there. -/
def asciiClass? (flags : Flags) (cs : List Char) : Option (Reading CharSet × List Char) :=
  match cs with
  | ':' :: '^' :: body => namedClass? flags true body
  | ':' :: body => namedClass? flags false body
  | _ => none

/-- One end of a range, or a whole item. -/
inductive SetItem
  | char (c : Char)
  | set (s : CharSet)

def SetItem.whole : SetItem → CharSet
  | .char c => CharSet.single c
  | .set s => s

def readItem (flags : Flags) (cs : List Char) : Reading (SetItem × List Char) :=
  match cs with
  | [] => fail
  | c :: rest =>
    match c with
    | '\\' => do
      match ← readEscape flags rest with
      | (.char c _, rest) => if !flags.unicode && c.toNat ≥ 128 then fail else return (.char c, rest)
      | (.set s, rest) => return (.set s, rest)
      | (.look _, _) => fail
    | _ => if !flags.unicode && c.toNat ≥ 128 then fail else .ok (.char c, rest)

/-- The characters between two ends. -/
def rangeOf (first last : SetItem) : Reading CharSet :=
  match first, last with
  | .char lo, .char hi => if lo ≤ hi then .ok (.span lo hi) else fail
  | _, _ => fail

/-- What follows the first item: the other end of a range, or none. -/
def readRangeEnd (flags : Flags) (first : SetItem) (cs : List Char) :
    Reading (CharSet × List Char) :=
  match cs with
  | '-' :: more =>
    match settle flags more with
    | [] => fail
    | c :: more =>
      if c = ']' || c = '-' then .ok (first.whole, cs)
      else do
        let (last, rest) ← readItem flags (c :: more)
        return (← rangeOf first last, rest)
  | _ => .ok (first.whole, cs)

/-- A character, a range or a named class. -/
def readRange (flags : Flags) (cs : List Char) : Reading (CharSet × List Char) := do
  let (first, rest) ← readItem flags cs
  readRangeEnd flags first (settle flags rest)

def leadingDashes (flags : Flags) : Nat → List Char → Nat × List Char
  | n + 1, '-' :: rest =>
    let (k, rest) := leadingDashes flags n (settle flags rest)
    (k + 1, rest)
  | _, cs => (0, cs)

def leadingCaret (flags : Flags) (cs : List Char) : Bool × List Char :=
  match cs with
  | '^' :: rest => (true, settle flags rest)
  | _ => (false, cs)

/-- Dashes that come first, or the bracket that does, stand for themselves. -/
def leadingItems (flags : Flags) (cs : List Char) : List SetPiece × List Char :=
  match leadingDashes flags cs.length cs with
  | (0, ']' :: rest) => ([⟨CharSet.single ']', 0⟩], settle flags rest)
  | (dashes, rest) => (List.replicate dashes ⟨CharSet.single '-', 0⟩, rest)

/-- The sign of a class and the items that stand for themselves. -/
def openClass (flags : Flags) (cs : List Char) : Bool × List SetPiece × List Char :=
  let (negated, cs) := leadingCaret flags (settle flags cs)
  (negated, leadingItems flags cs)

/-- An operator between two operands of a class is one sign written twice. -/
def setOperator? (cs : List Char) : Option (SetOperator × List Char) :=
  match cs with
  | c :: d :: rest =>
    if c = d then
      match c with
      | '&' => some (.inter, rest)
      | '-' => some (.diff, rest)
      | '~' => some (.xor, rest)
      | _ => none
    else none
  | _ => none

mutual

/-- Reads a class after its opening bracket. -/
def readClass (flags : Flags) : Nat → List Char → Reading (SetPiece × List Char)
  | 0, _ => fail
  | n + 1, cs =>
    let (negated, items, cs) := openClass flags cs
    readSetItems flags n negated none items cs

/-- Reads the rest of a class; `items` holds the current operand, last item first. -/
def readSetItems (flags : Flags) : Nat → Bool → Option (SetOperator × SetPiece) →
    List SetPiece → List Char → Reading (SetPiece × List Char)
  | 0, _, _, _, _ => fail
  | n + 1, negated, pending, items, cs =>
    match settle flags cs with
    | [] => fail
    | c :: rest =>
      match c with
      | '[' =>
        match asciiClass? flags rest with
        | some (s, rest) => do
          readSetItems flags n negated pending (⟨← s, 0⟩ :: items) rest
        | none => do
          let (inner, rest) ← readClass flags n rest
          readSetItems flags n negated pending (inner :: items) rest
      | ']' => do
        let body := closeOperand flags pending items
        let s ← complement flags negated (foldCase flags body.set)
        return (⟨s, body.depth + 1⟩, rest)
      | _ =>
        match setOperator? (c :: rest) with
        | some (op, rest) =>
          readSetItems flags n negated (some (op, closeOperand flags pending items)) [] rest
        | none => do
          let (s, rest) ← readRange flags (c :: rest)
          readSetItems flags n negated pending (⟨s, 0⟩ :: items) rest

end

/-! ## Flags -/

def flagOf? : Char → Option (Bool → Flags → Flags)
  | 'i' => some fun on f => { f with caseless := on }
  | 'm' => some fun on f => { f with multiline := on }
  | 's' => some fun on f => { f with dotAll := on }
  | 'U' => some fun on f => { f with swapGreed := on }
  | 'u' => some fun on f => { f with unicode := on }
  | 'R' => some fun on f => { f with crlf := on }
  | 'x' => some fun on f => { f with verbose := on }
  | _ => none

/-- Flag letters, each at most once, up to a colon or a parenthesis. -/
def readFlags (on : Bool) (seen : List Char) (flags : Flags) :
    List Char → Reading (Flags × List Char × List Char)
  | [] => fail
  | c :: rest =>
    if c == ':' || c == ')' then
      if seen.head? == some '-' then fail else .ok (flags, seen, c :: rest)
    else if seen.contains c then fail
    else if c == '-' then readFlags false (c :: seen) flags rest
    else match flagOf? c with
      | some change => readFlags on (c :: seen) (change on flags) rest
      | none => fail

/-! ## Groups and repetitions -/

def isNameStart (c : Char) : Bool := c == '_' || isAlphabetic c

def isNameChar (c : Char) : Bool :=
  c == '_' || c == '.' || c == '[' || c == ']' || isAlphanumeric c

/-- A group name and the text after its closing angle bracket. -/
def readName (cs : List Char) : Reading (String × List Char) := do
  let (name, rest) ← readUpTo (· ≠ '>') '>' cs
  match name with
  | [] => fail
  | c :: tail =>
    if isNameStart c && tail.all isNameChar then return (String.ofList name, rest) else fail

/-- How a group begins. -/
inductive Opening
  | capture (name : Option String)
  | plain (flags : Flags)
  | setFlags (flags : Flags)
  deriving Repr, Inhabited

/-- The text after the sign that a name follows. -/
def nameMark? (cs : List Char) : Option (List Char) :=
  (dropFront ['P', '<'] cs).or (dropFront ['<'] cs)

/-- Flags of a group, or of the rest of the group around them. -/
def readFlagGroup (flags : Flags) (cs : List Char) : Reading (Opening × List Char) := do
  let (changed, seen, rest) ← readFlags true [] flags cs
  match rest with
  | [] => fail
  | c :: rest =>
    if c = ':' then return (.plain changed, rest)
    else if seen.isEmpty then fail
    else return (.setFlags changed, rest)

/-- Reads what follows an opening parenthesis, up to the group's body. Looking around is refused,
for its signs begin no name and are no flags. -/
def readOpening (flags : Flags) (cs : List Char) : Reading (Opening × List Char) :=
  match settle flags cs with
  | '?' :: rest =>
    match nameMark? rest with
    | some rest => do
      let (name, rest) ← readName rest
      return (.capture (some name), rest)
    | none => readFlagGroup flags rest
  | cs => .ok (.capture none, cs)

/-- Ends bounds at their closing brace. -/
def closeBounds (least most : Nat) (cs : List Char) : Reading ((Nat × Option Nat) × List Char) :=
  match cs with
  | '}' :: rest => if least ≤ most then .ok ((least, some most), rest) else fail
  | _ => fail

/-- The upper bound after a comma, if there is one. -/
def readMost (flags : Flags) (least : Nat) (cs : List Char) :
    Reading ((Nat × Option Nat) × List Char) :=
  match cs with
  | '}' :: rest => .ok ((least, none), rest)
  | _ => do
    let (most, rest) ← readCount flags cs
    match most with
    | some most => closeBounds least most rest
    | none => fail

/-- The bounds written in braces, after the opening one. -/
def readBounds (flags : Flags) (cs : List Char) : Reading ((Nat × Option Nat) × List Char) := do
  let (least, rest) ← readCount flags (settle flags cs)
  match least with
  | none => fail
  | some least =>
    match rest with
    | ',' :: rest => readMost flags least (settle flags rest)
    | _ => closeBounds least least rest

/-- Applies a repetition to the piece read last; a flag setting cannot be repeated. -/
def repeatLast (flags : Flags) (least : Nat) (most : Option Nat) (lazy : Bool)
    (items : List (Option Piece)) : Reading (List (Option Piece)) :=
  match items with
  | some p :: items =>
    .ok (some ⟨.times p.pattern least most (lazy == flags.swapGreed), p.depth + 1⟩ :: items)
  | _ => fail

def lazyMark : List Char → Bool × List Char
  | '?' :: rest => (true, rest)
  | cs => (false, cs)

/-- A branch from its pieces, last first. -/
def branchOf (items : List (Option Piece)) : Piece :=
  let pieces := items.reverse.filterMap id
  ⟨Pattern.seqs (pieces.map (·.pattern)),
    (if items.length ≥ 2 then 1 else 0) + pieces.foldl (fun d p => max d p.depth) 0⟩

def alternativesOf (branches : List Piece) : Piece :=
  ⟨Pattern.alts (branches.map (·.pattern)),
    (if branches.length ≥ 2 then 1 else 0) + branches.foldl (fun d p => max d p.depth) 0⟩

def dotSet (flags : Flags) : Reading CharSet :=
  if !flags.unicode then fail
  else if flags.dotAll then .ok CharSet.any
  else if flags.crlf then .ok (.compl (.union (CharSet.single '\n') (CharSet.single '\r')))
  else .ok (.compl (CharSet.single '\n'))

def caretLook (flags : Flags) : Look :=
  if flags.multiline then (if flags.crlf then .lineStartCrlf else .lineStart) else .start

def dollarLook (flags : Flags) : Look :=
  if flags.multiline then (if flags.crlf then .lineStopCrlf else .lineStop) else .stop

def charPiece (flags : Flags) (c : Char) : Piece :=
  ⟨.chars (foldCase flags (CharSet.single c)), 0⟩

/-! ## Expressions -/

mutual

/-- Reads branches up to the end of the text or of the group around them. -/
def readBranches : Nat → List Piece → Cursor → Reading (Piece × Cursor)
  | 0, _, _ => fail
  | n + 1, branches, cur => do
    let (branch, cur) ← readBranch n [] cur
    match cur.rest with
    | '|' :: rest => readBranches n (branch :: branches) { cur with rest }
    | _ => return (alternativesOf (branch :: branches).reverse, cur)

/-- Reads one branch; `items` holds its pieces so far, last first. -/
def readBranch : Nat → List (Option Piece) → Cursor → Reading (Piece × Cursor)
  | 0, _, _ => fail
  | n + 1, items, cur =>
    let flags := cur.flags
    let push (p : Piece) (rest : List Char) :=
      readBranch n (some p :: items) { cur with rest }
    let quantified (least : Nat) (most : Option Nat) (rest : List Char) := do
      let (lazy, rest) := lazyMark rest
      readBranch n (← repeatLast flags least most lazy items) { cur with rest }
    match settle flags cur.rest with
    | [] => .ok (branchOf items, { cur with rest := [] })
    | c :: rest =>
      match c with
      | '|' => .ok (branchOf items, { cur with rest := '|' :: rest })
      | ')' => .ok (branchOf items, { cur with rest := ')' :: rest })
      | '(' => do
        match ← readOpening flags rest with
        | (.setFlags changed, rest) =>
          readBranch n (none :: items) { cur with rest, flags := changed }
        | (.plain inner, rest) =>
          let (body, done) ← readBranches n [] { cur with rest, flags := inner }
          match done.rest with
          | ')' :: rest =>
            readBranch n (some ⟨body.pattern, body.depth + 1⟩ :: items) { done with rest, flags }
          | _ => fail
        | (.capture name, rest) =>
          if name.isSome && cur.groups.contains name then fail
          else
            let index := cur.groups.length + 1
            let (body, done) ← readBranches n [] { cur with rest, groups := name :: cur.groups }
            match done.rest with
            | ')' :: rest =>
              readBranch n (some ⟨.group index body.pattern, body.depth + 1⟩ :: items)
                { done with rest, flags }
            | _ => fail
      | '?' => quantified 0 (some 1) rest
      | '*' => quantified 0 none rest
      | '+' => quantified 1 none rest
      | '{' => do
        let ((least, most), rest) ← readBounds flags rest
        quantified least most (settle flags rest)
      | '[' => do
        let (s, rest) ← readClass flags (2 * rest.length + 2) rest
        push ⟨.chars s.set, s.depth⟩ rest
      | '.' => do push ⟨.chars (← dotSet flags), 0⟩ rest
      | '^' => push ⟨.look (caretLook flags), 0⟩ rest
      | '$' => push ⟨.look (dollarLook flags), 0⟩ rest
      | '\\' => do
        match ← readEscape flags rest with
        | (.char c numbered, rest) =>
          if numbered && !flags.unicode && c.toNat ≥ 128 then fail
          else push (charPiece flags c) rest
        | (.set s, rest) => push ⟨.chars s, 0⟩ rest
        | (.look l, rest) => push ⟨.look l, 0⟩ rest
      | _ => push (charPiece flags c) rest

end

/-- A pattern with the names of its groups, in order. -/
structure Expression where
  pattern : Pattern
  groups : List (Option String)
  deriving DecidableEq, Repr, Inhabited

/-- Reads a whole expression. -/
def read (cs : List Char) : Reading Expression := do
  let (piece, cur) ← readBranches (2 * cs.length + 3) [] { rest := cs }
  if !cur.rest.isEmpty || piece.depth > nestLimit || piece.pattern.footprint > Pattern.sizeLimit then
    fail
  else return ⟨piece.pattern, cur.groups.reverse⟩

end TemplateBench.Regex
