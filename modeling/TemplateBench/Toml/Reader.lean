import TemplateBench.Toml.Scalar

/-!
Reading documents of TOML.

`Toml.read?` accepts a document of lines, each with a header, a key with its value, or nothing, and
with a comment at its end. Values may go over several lines inside brackets and long strings.
-/
namespace TemplateBench.Toml
open Text Decimal

/-! ## Blanks, comments and line ends -/

private def skipSpace (cs : List Char) : List Char := cs.dropWhile fun c => c == ' ' || c == '\t'

/-- Control characters may not stand in a document, save the tab. -/
private def isControl (c : Char) : Bool := (c.toNat < 32 && c != '\t') || c.toNat == 127

private def afterNewline? : List Char → Option (List Char)
  | '\n' :: rest => some rest
  | '\r' :: '\n' :: rest => some rest
  | _ => none

/-- The end of a comment, if it has no control characters; the carriage return of a line end does
not count as one. -/
private def skipComment : List Char → Option (List Char)
  | '#' :: rest =>
    let rest := rest.dropWhile (!isControl ·)
    if rest.isEmpty || (afterNewline? rest).isSome then some rest else none
  | rest => some rest

/-- What follows blanks, comments and line ends. -/
private def skipLines : Nat → List Char → Option (List Char)
  | 0, _ => none
  | fuel + 1, cs => do
    let rest ← skipComment (skipSpace cs)
    match afterNewline? rest with
    | some rest => skipLines fuel rest
    | none => some rest

private def skipAll (cs : List Char) : Option (List Char) := skipLines (cs.length + 1) cs

/-! ## Strings -/

private def hexChar? (count : Nat) (cs : List Char) : Option (Char × List Char) := do
  let ds := cs.take count
  if ds.length ≠ count then none
  else
    let n ← readNat? 16 ds
    if n.isValidChar then some (Char.ofNat n, cs.drop count) else none

/-- The character of an escape, whose backslash has been read. -/
private def escape? : List Char → Option (Char × List Char)
  | 'b' :: rest => some ('\x08', rest)
  | 't' :: rest => some ('\t', rest)
  | 'n' :: rest => some ('\n', rest)
  | 'f' :: rest => some ('\x0c', rest)
  | 'r' :: rest => some ('\r', rest)
  | 'e' :: rest => some ('\x1b', rest)
  | '"' :: rest => some ('"', rest)
  | '\\' :: rest => some ('\\', rest)
  | 'x' :: rest => hexChar? 2 rest
  | 'u' :: rest => hexChar? 4 rest
  | 'U' :: rest => hexChar? 8 rest
  | _ => none

private def readBasic : Nat → List Char → List Char → Option (List Char × List Char)
  | 0, _, _ => none
  | _ + 1, _, [] => none
  | _ + 1, acc, '"' :: rest => some (acc.reverse, rest)
  | fuel + 1, acc, '\\' :: rest => do
    let (c, rest) ← escape? rest
    readBasic fuel (c :: acc) rest
  | fuel + 1, acc, c :: rest => if isControl c then none else readBasic fuel (c :: acc) rest

private def readLiteral : List Char → List Char → Option (List Char × List Char)
  | _, [] => none
  | acc, '\'' :: rest => some (acc.reverse, rest)
  | acc, c :: rest => if isControl c then none else readLiteral (c :: acc) rest

/-- A backslash at the end of a line takes all white space up to the next text with it. -/
private def continued? (cs : List Char) : Option (List Char) :=
  (afterNewline? (skipSpace cs)).map fun rest =>
    rest.dropWhile fun c => c == ' ' || c == '\t' || c == '\n' || c == '\r'

/-- Up to two quotes may stand right before the three that close a long string. -/
private def closeLong (quote : Char) (acc cs : List Char) : Option (List Char × List Char) :=
  let count := (cs.takeWhile (· == quote)).length
  if count < 3 then none
  else
    let extra := min (count - 3) 2
    some (acc.reverse ++ List.replicate extra quote, cs.drop (3 + extra))

private def readLong (quote : Char) : Nat → List Char → List Char → Option (List Char × List Char)
  | 0, _, _ => none
  | _ + 1, _, [] => none
  | fuel + 1, acc, c :: rest =>
    if c = quote then
      match closeLong quote acc (c :: rest) with
      | some done => some done
      | none => readLong quote fuel (c :: acc) rest
    else if c = '\\' && quote = '"' then
      match continued? rest with
      | some rest => readLong quote fuel acc rest
      | none => do
        let (c, rest) ← escape? rest
        readLong quote fuel (c :: acc) rest
    else if c = '\n' then readLong quote fuel (c :: acc) rest
    else if c = '\r' && rest.head? = some '\n' then readLong quote fuel (c :: acc) rest
    else if isControl c then none
    else readLong quote fuel (c :: acc) rest

/-- A line end right after the opening quotes does not count. -/
private def openLong (quote : Char) (cs : List Char) : Option (List Char × List Char) :=
  let cs := (afterNewline? cs).getD cs
  readLong quote (cs.length + 1) [] cs

private def readString? : List Char → Option (List Char × List Char)
  | '"' :: '"' :: '"' :: rest => openLong '"' rest
  | '\'' :: '\'' :: '\'' :: rest => openLong '\'' rest
  | '"' :: rest => readBasic (rest.length + 1) [] rest
  | '\'' :: rest => readLiteral [] rest
  | _ => none

/-! ## Keys -/

private def isBare (c : Char) : Bool := isAsciiAlphanumeric c || c == '_' || c == '-'

private def readPart? (cs : List Char) : Option (String × List Char) :=
  match cs with
  | '"' :: rest => (readBasic (rest.length + 1) [] rest).map fun (s, rest) => (String.ofList s, rest)
  | '\'' :: rest => (readLiteral [] rest).map fun (s, rest) => (String.ofList s, rest)
  | cs =>
    let (name, rest) := cs.span isBare
    if name.isEmpty then none else some (String.ofList name, rest)

/-- The parts of a dotted key. -/
private def readKey : Nat → List Char → Option (List String × List Char)
  | 0, _ => none
  | fuel + 1, cs => do
    let (part, rest) ← readPart? (skipSpace cs)
    match skipSpace rest with
    | '.' :: rest => do
      let (parts, rest) ← readKey fuel rest
      return (part :: parts, rest)
    | rest => some ([part], rest)

private def readKey? (cs : List Char) : Option (List String × List Char) := readKey (cs.length + 1) cs

/-! ## Values -/

private def isScalarChar (c : Char) : Bool :=
  isAsciiAlphanumeric c || c == '_' || c == '-' || c == '+' || c == '.' || c == ':'

/-- A scalar without quotes. A single space may stand between a date and a time. -/
private def readScalar? (cs : List Char) : Option (Toml × List Char) :=
  let (word, rest) := cs.span isScalarChar
  let (word, rest) := match rest with
    | ' ' :: d :: more =>
      if afterDate? word == some [] && isAsciiDigit d then
        let (time, rest) := (d :: more).span isScalarChar
        (word ++ ' ' :: time, rest)
      else (word, rest)
    | _ => (word, rest)
  (scalar? word).map (·, rest)

private def close : Toml → Toml
  | .table _ entries => .table .closed entries
  | v => v

mutual

private def readValue : Nat → List Char → Option (Toml × List Char)
  | 0, _ => none
  | fuel + 1, cs =>
    match cs with
    | '[' :: rest => readItems fuel [] rest
    | '\x7b' :: rest => readEntries fuel empty rest
    | '"' :: _ | '\'' :: _ =>
      (readString? cs).map fun (s, rest) => (.string (String.ofList s), rest)
    | cs => readScalar? cs

private def readItems : Nat → List Toml → List Char → Option (Toml × List Char)
  | 0, _, _ => none
  | fuel + 1, acc, cs => do
    match ← skipAll cs with
    | ']' :: rest => some (.array false acc.reverse, rest)
    | cs => do
      let (v, rest) ← readValue fuel cs
      match ← skipAll rest with
      | ',' :: rest => readItems fuel (v :: acc) rest
      | ']' :: rest => some (.array false (v :: acc).reverse, rest)
      | _ => none

private def readEntries : Nat → Toml → List Char → Option (Toml × List Char)
  | 0, _, _ => none
  | fuel + 1, t, cs => do
    match ← skipAll cs with
    | '\x7d' :: rest => some (close t, rest)
    | cs => do
      let (keys, rest) ← readKey? cs
      match rest with
      | '=' :: rest => do
        let (v, rest) ← readValue fuel (skipSpace rest)
        let t ← define keys v t
        match ← skipAll rest with
        | ',' :: rest => readEntries fuel t rest
        | '\x7d' :: rest => some (close t, rest)
        | _ => none
      | _ => none

end

/-! ## Documents -/

/-- What a line of a document says. -/
private inductive Entry
  | nothing
  | table (keys : List String)
  | item (keys : List String)
  | value (keys : List String) (v : Toml)

private def readHeader (cs : List Char) : Option (Entry × List Char) :=
  match cs with
  | '[' :: rest => do
    match ← readKey? rest with
    | (keys, ']' :: ']' :: rest) => some (.item keys, rest)
    | _ => none
  | rest => do
    match ← readKey? rest with
    | (keys, ']' :: rest) => some (.table keys, rest)
    | _ => none

private def readEntry (cs : List Char) : Option (Entry × List Char) :=
  match cs with
  | [] | '\n' :: _ | '\r' :: _ | '#' :: _ => some (.nothing, cs)
  | '[' :: rest => readHeader rest
  | cs => do
    match ← readKey? cs with
    | (keys, '=' :: rest) => do
      let (v, rest) ← readValue (rest.length + 1) (skipSpace rest)
      return (.value keys v, rest)
    | _ => none

private def readDocument : Nat → List String → Toml → List Char → Option Toml
  | 0, _, _, _ => none
  | fuel + 1, header, t, cs => do
    let (entry, rest) ← readEntry (skipSpace cs)
    let rest ← skipComment (skipSpace rest)
    let (header, t) ← match entry with
      | .nothing => some (header, t)
      | .table keys => (openTable keys t).map (keys, ·)
      | .item keys => (openItem keys t).map (keys, ·)
      | .value keys v => (within (define keys v) header t).map (header, ·)
    match rest with
    | [] => some t
    | rest => do readDocument fuel header t (← afterNewline? rest)

/-- A byte order mark may come first. -/
def read? (text : String) : Option Toml :=
  let cs := match text.toList with
    | '\ufeff' :: cs => cs
    | cs => cs
  readDocument (cs.length + 1) [] empty cs

end TemplateBench.Toml
