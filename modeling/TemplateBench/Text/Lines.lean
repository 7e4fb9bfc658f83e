/-!
Blanks, trimming, lines and searches in texts given as lists of characters.

* `lines` cuts a text at its line feeds; a carriage return before a line feed goes with it, and
  a text that ends in a line feed has no empty last line.
* `trim`, `trimStart` and `trimEnd` drop the white space of Unicode.
* `splitOn` cuts a text at every occurrence of a character.
-/
namespace TemplateBench.Text

/-! ## White space -/

/-- The property White_Space. -/
def isBlank (c : Char) : Bool :=
  let n := c.toNat
  (9 ≤ n && n ≤ 13) || n == 32 || n == 0x85 || n == 0xA0 || n == 0x1680 ||
    (0x2000 ≤ n && n ≤ 0x200A) || n == 0x2028 || n == 0x2029 || n == 0x202F || n == 0x205F ||
    n == 0x3000

def trimStart (cs : List Char) : List Char := cs.dropWhile isBlank

def trimEnd : List Char → List Char
  | [] => []
  | c :: rest =>
    match trimEnd rest with
    | [] => if isBlank c then [] else [c]
    | kept => c :: kept

def trim (cs : List Char) : List Char := trimEnd (trimStart cs)

/-- Nothing but white space. -/
def isBlankText (s : String) : Bool := s.toList.all isBlank

/-! ## Lines -/

/-- A line without the one carriage return that may end it. -/
def dropReturn : List Char → List Char
  | [] => []
  | ['\r'] => []
  | c :: rest => c :: dropReturn rest

/-- The pieces before each line feed, and what follows the last one unless it is empty. -/
def rawLines (cs : List Char) : List (List Char × Bool) :=
  go [] cs
where
  go (line : List Char) : List Char → List (List Char × Bool)
    | [] => if line.isEmpty then [] else [(line.reverse, false)]
    | '\n' :: rest => (line.reverse, true) :: go [] rest
    | c :: rest => go (c :: line) rest

/-- Only a line feed takes a carriage return with it: a last line without one keeps it. -/
def lines (cs : List Char) : List (List Char) :=
  (rawLines cs).map fun (line, ended) => if ended then dropReturn line else line

/-! ## Searches -/

/-- The rest of a text after a given beginning. -/
def dropFront : List Char → List Char → Option (List Char)
  | [], cs => some cs
  | _ :: _, [] => none
  | p :: ps, c :: cs => if p = c then dropFront ps cs else none

def startsWith (cs front : List Char) : Bool := (dropFront front cs).isSome

def endsWith (cs back : List Char) : Bool := startsWith cs.reverse back.reverse

/-- The text before a given ending. -/
def dropBack (back cs : List Char) : Option (List Char) :=
  (dropFront back.reverse cs.reverse).map List.reverse

/-- Whether `part` occurs in a text without a gap. -/
def contains (part : List Char) : List Char → Bool
  | [] => part.isEmpty
  | c :: cs => startsWith (c :: cs) part || contains part cs

def splitOn (sep : Char) : List Char → List (List Char)
  | [] => [[]]
  | c :: rest =>
    if c = sep then [] :: splitOn sep rest
    else match splitOn sep rest with
      | [] => [[c]]
      | piece :: pieces => (c :: piece) :: pieces

/-- Pieces with `sep` between each two. -/
def join (sep : List Char) : List (List Char) → List Char
  | [] => []
  | [piece] => piece
  | piece :: pieces => piece ++ sep ++ join sep pieces

end TemplateBench.Text
