import TemplateBench.Regex.Reader

/-!
Matching by threads that read the text together.

* A `Thread` is what a partial match still has to do, with the group borders met so far. Threads
  are kept in order of preference, and of two with the same tasks only the first is kept: both
  have the same future. So a match costs time linear in the text.
* `settleAll` runs threads up to the next character, `feed` reads that character.
* `Regex.find?` tries each position from the left and takes the preferred match there.

A repetition whose body matches the empty text goes round once without moving, and then leaves;
threads that differ only in having moved have the same future, so a round without moving never
displaces the choices after it.
-/
namespace TemplateBench.Regex

/-! ## Threads -/

inductive Task
  | run (p : Pattern)
  | close (group : Nat)
  /-- Between two rounds of an unbounded repetition; `moved` says that this round has read. -/
  | again (p : Pattern) (greedy : Bool) (moved : Bool)
  deriving DecidableEq, Repr, Inhabited

/-- Where a group was opened or closed, in characters from the start of the text. -/
inductive Border
  | opened (group position : Nat)
  | closed (group position : Nat)
  deriving DecidableEq, Repr, Inhabited

structure Thread where
  tasks : List Task
  borders : List Border
  deriving DecidableEq, Repr, Inhabited

/-- A position between two characters of the text. -/
structure Place where
  position : Nat
  before : Option Char
  after : Option Char
  deriving DecidableEq, Repr, Inhabited

/-- The first choice of a repetition, or its second one when it is lazy. -/
def prefer {α : Type} (greedy : Bool) (enter leave : α) : List α :=
  if greedy then [enter, leave] else [leave, enter]

/-- One step that reads nothing: the threads that replace a thread, or `none` if it must read. -/
def Thread.unfold (place : Place) (t : Thread) : Option (List Thread) :=
  match t.tasks with
  | [] => none
  | .close g :: rest => some [⟨rest, .closed g place.position :: t.borders⟩]
  | .again p greedy moved :: rest =>
    if moved then
      some (prefer greedy ⟨.run p :: .again p greedy false :: rest, t.borders⟩ ⟨rest, t.borders⟩)
    else some [⟨rest, t.borders⟩]
  | .run p :: rest =>
    match p with
    | .empty => some [⟨rest, t.borders⟩]
    | .chars _ => none
    | .look l => some (if l.holds place.before place.after then [⟨rest, t.borders⟩] else [])
    | .group g p => some [⟨.run p :: .close g :: rest, .opened g place.position :: t.borders⟩]
    | .seq p q => some [⟨.run p :: .run q :: rest, t.borders⟩]
    | .alt p q => some [⟨.run p :: rest, t.borders⟩, ⟨.run q :: rest, t.borders⟩]
    | .times p 0 none greedy =>
      some (prefer greedy ⟨.run p :: .again p greedy false :: rest, t.borders⟩ ⟨rest, t.borders⟩)
    | .times p 1 none greedy => some [⟨.run p :: .again p greedy false :: rest, t.borders⟩]
    | .times p (n + 2) none greedy =>
      some [⟨.run p :: .run (.times p (n + 1) none greedy) :: rest, t.borders⟩]
    | .times _ 0 (some 0) _ => some [⟨rest, t.borders⟩]
    | .times p 0 (some (m + 1)) greedy =>
      some (prefer greedy ⟨.run p :: .run (.times p 0 (some m) greedy) :: rest, t.borders⟩
        ⟨rest, t.borders⟩)
    | .times p (n + 1) (some m) greedy =>
      some [⟨.run p :: .run (.times p n (some (m - 1)) greedy) :: rest, t.borders⟩]

/-- Equal but for what has been read in the current rounds. -/
def Task.alike : Task → Task → Bool
  | .run p, .run q => p == q
  | .close g, .close h => g == h
  | .again p greedy _, .again q greedy' _ => greedy == greedy' && p == q
  | _, _ => false

/-- Task lists with the same future at one place. -/
def sameFuture : List Task → List Task → Bool
  | [], [] => true
  | s :: ss, t :: ts => s.alike t && sameFuture ss ts
  | _, _ => false

/-! ## Settling -/

/-- How many steps a pattern can take before it reads or is done. -/
def Pattern.weight : Pattern → Nat
  | .empty => 1
  | .chars _ => 1
  | .look _ => 1
  | .group _ p => p.weight + 2
  | .seq p q => p.weight + q.weight + 1
  | .alt p q => p.weight + q.weight + 1
  | .times p least none _ => (least + 1) * (p.weight + 2) + 1
  | .times p least (some most) _ => (max least most + 1) * (p.weight + 2) + 1

def Task.weight : Task → Nat
  | .run p => p.weight
  | .close _ => 1
  | .again p _ moved => if moved then p.weight + 3 else 1

def Thread.weight (t : Thread) : Nat := (t.tasks.map Task.weight).foldr (· + ·) 0

/-- The threads that wait for a character, and the first one that is done. -/
structure Settled where
  seen : List (List Task) := []
  waiting : List Thread := []
  done : Option (List Border) := none
  deriving Repr, Inhabited

/-- Runs one thread and its offspring in order of preference. Once a thread is done, those after
it no longer count. -/
def settleOne (place : Place) : Nat → Thread → Settled → Settled
  | 0, _, acc => acc
  | n + 1, t, acc =>
    if acc.done.isSome || acc.seen.any (sameFuture t.tasks) then acc
    else
      let acc := { acc with seen := t.tasks :: acc.seen }
      match t.tasks with
      | [] => { acc with done := some t.borders }
      | _ =>
        match t.unfold place with
        | none => { acc with waiting := t :: acc.waiting }
        | some ts => ts.foldl (fun acc t => settleOne place n t acc) acc

/-- Runs all threads up to the next character; the waiting ones come last first. -/
def settleAll (place : Place) (ts : List Thread) : Settled :=
  ts.foldl (fun acc t => settleOne place (t.weight + 1) t acc) {}

/-! ## Reading -/

private def Task.moved : Task → Task
  | .again p greedy _ => .again p greedy true
  | task => task

/-- What a waiting thread becomes after a character, unless the character stops it. -/
def Thread.feed (c : Char) (t : Thread) : Option Thread :=
  match t.tasks with
  | .run (.chars s) :: rest => if s.mem c then some ⟨rest.map Task.moved, t.borders⟩ else none
  | _ => none

/-- Reads the text with the given threads; the match found last is the preferred one. -/
def advance (position : Nat) (before : Option Char) (best : Option (Nat × List Border)) :
    List Thread → List Char → Option (Nat × List Border)
  | [], _ => best
  | ts, [] =>
    match (settleAll ⟨position, before, none⟩ ts).done with
    | some borders => some (position, borders)
    | none => best
  | ts, c :: cs =>
    let settled := settleAll ⟨position, before, some c⟩ ts
    let best := match settled.done with
      | some borders => some (position, borders)
      | none => best
    advance (position + 1) (some c) best (settled.waiting.reverse.filterMap (Thread.feed c)) cs

/-! ## Captures -/

/-- A match: where it starts and ends and the borders of its groups, last first. -/
structure Match where
  start : Nat
  stop : Nat
  borders : List Border
  deriving DecidableEq, Repr, Inhabited

def lastOpened (g : Nat) : List Border → Option Nat
  | [] => none
  | .opened h position :: rest => if h = g then some position else lastOpened g rest
  | .closed .. :: rest => lastOpened g rest

def lastClosed (g : Nat) : List Border → Option Nat
  | [] => none
  | .closed h position :: rest => if h = g then some position else lastClosed g rest
  | .opened .. :: rest => lastClosed g rest

/-- The span of a group that took part in the match. -/
def Match.group? (m : Match) (g : Nat) : Option (Nat × Nat) := do
  let start ← lastOpened g m.borders
  let stop ← lastClosed g m.borders
  return (start, stop)

/-- The match that starts at the given position, which is followed by `rest`. -/
def matchAt (p : Pattern) (position : Nat) (before : Option Char) (rest : List Char) :
    Option Match :=
  (advance position before none [⟨[.run p], []⟩] rest).map fun (stop, borders) =>
    ⟨position, stop, borders⟩

def findFrom (p : Pattern) (position : Nat) (before : Option Char) :
    List Char → Option Match
  | [] => matchAt p position before []
  | c :: rest =>
    match matchAt p position before (c :: rest) with
    | some m => some m
    | none => findFrom p (position + 1) (some c) rest

end TemplateBench.Regex

/-! ## Expressions in use -/

namespace TemplateBench

/-- A readable expression together with its text. -/
structure Regex where
  source : String
  pattern : Regex.Pattern
  groups : List (Option String)
  deriving Repr, Inhabited, DecidableEq

namespace Regex

/-- What is said of a malformed expression: one text for all of them, without the reason. -/
def Malformed.message : Malformed → String
  | .malformed => "<regex error>"

def compile (source : String) : Except Malformed Regex := do
  let e ← read source.toList
  return ⟨source, e.pattern, e.groups⟩

def find? (r : Regex) (text : List Char) : Option Match := findFrom r.pattern 0 none text

private def slice (text : List Char) (start stop : Nat) : String :=
  String.ofList ((text.drop start).take (stop - start))

/-- The part of the text that a group matched. -/
def groupText (text : List Char) (m : Match) (g : Nat) : Option String :=
  (m.group? g).map fun (start, stop) => slice text start stop

/-- The whole text of a match. -/
def matchText (text : List Char) (m : Match) : String := slice text m.start m.stop

/-- The named groups with their texts, in order. -/
def namedGroups (r : Regex) (text : List Char) (m : Match) : List (String × Option String) :=
  (r.groups.zipIdx 1).filterMap fun (name, g) => name.map fun name => (name, groupText text m g)

end Regex

end TemplateBench
