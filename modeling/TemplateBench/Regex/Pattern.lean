import TemplateBench.Regex.CharSet

/-!
Patterns, the meaning of a regular expression.

* `Pattern` is the tree that matching walks over.
* `Look` are the assertions, which test the characters around a position and consume nothing.
* `Pattern.nullable` says whether a pattern may match the empty text.
* `Pattern.footprint` estimates the memory of a compiled pattern, in bytes. An expression whose
  estimate is above `Pattern.sizeLimit` is refused; near that limit the estimate may be off.
-/
namespace TemplateBench.Regex
open Text

/-! ## Assertions -/

inductive Look
  | start
  | stop
  | lineStart
  | lineStop
  | lineStartCrlf
  | lineStopCrlf
  | boundary (unicode : Bool)
  | inside (unicode : Bool)
  | wordStart (unicode : Bool)
  | wordStop (unicode : Bool)
  | wordStartHalf (unicode : Bool)
  | wordStopHalf (unicode : Bool)
  deriving DecidableEq, Repr, Inhabited

private def besideWord (unicode : Bool) (c : Option Char) : Bool :=
  c.any fun c => if unicode then isWord c else CharSet.asciiWord.mem c

/-- Whether an assertion holds between two neighbouring characters, absent at the text's ends. -/
def Look.holds (l : Look) (before after : Option Char) : Bool :=
  match l with
  | .start => before.isNone
  | .stop => after.isNone
  | .lineStart => before.all (· == '\n')
  | .lineStop => after.all (· == '\n')
  | .lineStartCrlf => before.all fun c => c == '\n' || (c == '\r' && after != some '\n')
  | .lineStopCrlf => after.all fun c => c == '\r' || (c == '\n' && before != some '\r')
  | .boundary u => besideWord u before != besideWord u after
  | .inside u => besideWord u before == besideWord u after
  | .wordStart u => !besideWord u before && besideWord u after
  | .wordStop u => besideWord u before && !besideWord u after
  | .wordStartHalf u => !besideWord u before
  | .wordStopHalf u => !besideWord u after

/-! ## Patterns -/

inductive Pattern
  | empty
  | chars (s : CharSet)
  | look (l : Look)
  | group (index : Nat) (p : Pattern)
  | seq (p q : Pattern)
  | alt (p q : Pattern)
  | times (p : Pattern) (least : Nat) (most : Option Nat) (greedy : Bool)
  deriving DecidableEq, Repr, Inhabited

namespace Pattern

def seqs : List Pattern → Pattern
  | [] => .empty
  | [p] => p
  | p :: rest => .seq p (seqs rest)

def alts : List Pattern → Pattern
  | [] => .empty
  | [p] => p
  | p :: rest => .alt p (alts rest)

/-- A pattern that some text matches without a character. -/
def nullable : Pattern → Bool
  | .empty => true
  | .chars _ => false
  | .look _ => true
  | .group _ p => p.nullable
  | .seq p q => p.nullable && q.nullable
  | .alt p q => p.nullable || q.nullable
  | .times p least _ _ => least == 0 || p.nullable

/-! ## Size -/

private def setFootprint : CharSet → Nat
  | .span lo hi => if lo = hi then 32 * lo.utf8Size else 32 + 16 * hi.utf8Size
  | .none => 32
  | .word => 46000
  | .digit => 6000
  | .blank => 800
  | .named table => 60 * table.length
  | .union s t | .inter s t | .diff s t => setFootprint s + setFootprint t
  | .compl s | .folded s => setFootprint s + 32

/-- Bytes that a compiled pattern takes, repetitions written out; far from `sizeLimit` it decides
on the same side as an exact count. -/
def footprint : Pattern → Nat
  | .empty => 32
  | .chars s => setFootprint s
  | .look _ => 32
  | .group _ p => 64 + p.footprint
  | .seq p q => p.footprint + q.footprint
  | .alt p q => 64 + p.footprint + q.footprint
  | .times p least most _ => 32 + (p.footprint + 32) * max 1 (most.getD least)

/-- The largest footprint of a usable pattern: ten mebibytes. -/
def sizeLimit : Nat := 10 * 1024 * 1024

end Pattern

end TemplateBench.Regex
