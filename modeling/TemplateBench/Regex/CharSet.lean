import TemplateBench.Text.Letters
import TemplateBench.Text.Casing
import TemplateBench.Text.Lines

/-!
Sets of characters as a pattern describes them, kept symbolic so that two sets compare fast.

* `CharSet.mem` decides membership.
* `CharSet.folded s` is `s` closed under a change of case.
-/
namespace TemplateBench.Regex
open Text

/-! ## Sets -/

inductive CharSet
  | span (lo hi : Char)
  | none
  | word
  | digit
  | blank
  | named (table : Spans)
  | union (s t : CharSet)
  | inter (s t : CharSet)
  | diff (s t : CharSet)
  | compl (s : CharSet)
  | folded (s : CharSet)
  deriving DecidableEq, Repr, Inhabited

namespace CharSet

def single (c : Char) : CharSet := .span c c

def any : CharSet := .compl .none

def ofSpans : List (Char × Char) → CharSet
  | [] => .none
  | [(lo, hi)] => .span lo hi
  | (lo, hi) :: rest => .union (.span lo hi) (ofSpans rest)

def mem : CharSet → Char → Bool
  | .span lo hi, c => lo ≤ c && c ≤ hi
  | .none, _ => false
  | .word, c => isWord c
  | .digit, c => isDecimalDigit c
  | .blank, c => isBlank c
  | .named table, c => table.covers c
  | .union s t, c => s.mem c || t.mem c
  | .inter s t, c => s.mem c && t.mem c
  | .diff s t, c => s.mem c && !t.mem c
  | .compl s, c => !s.mem c
  | .folded s, c => (caseOrbit c).any s.mem

/-- The symmetric difference. -/
def xor (s t : CharSet) : CharSet := .diff (.union s t) (.inter s t)

/-! ## ASCII classes -/

def asciiDigit : CharSet := .span '0' '9'

def asciiBlank : CharSet := .union (.span '\t' '\r') (.single ' ')

def asciiWord : CharSet := ofSpans [('0', '9'), ('A', 'Z'), ('_', '_'), ('a', 'z')]

/-- The classes written `[:name:]`. -/
def ascii? : String → Option CharSet
  | "alnum" => some (ofSpans [('0', '9'), ('A', 'Z'), ('a', 'z')])
  | "alpha" => some (ofSpans [('A', 'Z'), ('a', 'z')])
  | "ascii" => some (.span '\x00' '\x7f')
  | "blank" => some (ofSpans [('\t', '\t'), (' ', ' ')])
  | "cntrl" => some (ofSpans [('\x00', '\x1f'), ('\x7f', '\x7f')])
  | "digit" => some asciiDigit
  | "graph" => some (.span '!' '~')
  | "lower" => some (.span 'a' 'z')
  | "print" => some (.span ' ' '~')
  | "punct" => some (ofSpans [('!', '/'), (':', '@'), ('[', '\x60'), ('\x7b', '~')])
  | "space" => some asciiBlank
  | "upper" => some (.span 'A' 'Z')
  | "word" => some asciiWord
  | "xdigit" => some (ofSpans [('0', '9'), ('A', 'F'), ('a', 'f')])
  | _ => Option.none

end CharSet

end TemplateBench.Regex
