/-!
A pool of workers that share a bounded number of permits.

The parts of a pool move on their own. One takes jobs in turn: it acquires a permit and starts a
task, and hangs up when no job is left. A task works out its result, gives the permit back, sends
the result into a channel of bounded capacity and leaves. A collector receives results one by one,
shows each and then records it. It stops when the channel is empty and nobody is left to send.

* `Pool.step?` is what one move does, if it can be made.
* `Pool.remaining` bounds every run: a move brings one part one stage further.
* `Pool.run` makes moves until none can be made.
-/
namespace TemplateBench

/-- What the collector has in hand. -/
inductive Desk (β : Type)
  | empty
  | received (result : β)
  | shown (result : β)
  /-- The collector has stopped. -/
  | closed
  deriving DecidableEq, Repr, Inhabited

namespace Desk

variable {β : Type}

def isClosed : Desk β → Bool
  | .closed => true
  | _ => false

/-- How many moves the collector has before it on its own. -/
def remaining : Desk β → Nat
  | .empty => 1
  | .received _ => 3
  | .shown _ => 2
  | .closed => 0

end Desk

/-- The stages of a batch of jobs `α` with results `β`. -/
structure Pool (α β : Type) where
  /-- Permits that nobody holds. -/
  permits : Nat
  /-- How many results the channel takes. -/
  capacity : Nat
  waiting : List α
  /-- The job that has a permit but no task yet. -/
  next : Option α := none
  /-- Jobs are still handed out, or could be. -/
  feeding : Bool := true
  running : List α := []
  /-- Results whose tasks still hold their permits. -/
  finished : List β := []
  /-- Results that are not in the channel yet. -/
  outgoing : List β := []
  /-- Tasks that have sent their result and are not over yet. -/
  leaving : Nat := 0
  channel : List β := []
  desk : Desk β := .empty
  /-- Results that were shown, in order. -/
  shown : List β := []
  /-- Results that were recorded, in order. -/
  recorded : List β := []
  deriving Repr, Inhabited

inductive Move
  | acquire
  | start
  | hangUp
  | finish (task : Nat)
  | release (task : Nat)
  | send (task : Nat)
  | leave
  | receive
  | tell
  | record
  | close
  deriving DecidableEq, Repr, Inhabited

namespace Pool

variable {α β : Type}

/-- At least one job may run, and the channel takes twice as many results as may run. -/
def start (workers : Nat) (jobs : List α) : Pool α β :=
  { permits := max workers 1, capacity := max workers 1 * 2, waiting := jobs }

/-- Whoever may still send, or start a task that does. -/
def senders (p : Pool α β) : Nat :=
  (if p.feeding then 1 else 0) + p.running.length + p.finished.length + p.outgoing.length +
    p.leaving

/-! ## Moves -/

def step? (work : α → β) (p : Pool α β) : Move → Option (Pool α β)
  | .acquire =>
    match p.waiting, p.next, p.permits with
    | job :: waiting, none, permits + 1 =>
      some { p with waiting := waiting, next := some job, permits := permits }
    | _, _, _ => none
  | .start => p.next.map fun job => { p with next := none, running := p.running ++ [job] }
  | .hangUp =>
    match p.waiting, p.next, p.feeding with
    | [], none, true => some { p with feeding := false }
    | _, _, _ => none
  | .finish i => p.running[i]?.map fun job =>
      { p with running := p.running.eraseIdx i, finished := p.finished ++ [work job] }
  | .release i => p.finished[i]?.map fun result =>
      { p with
        finished := p.finished.eraseIdx i
        outgoing := p.outgoing ++ [result]
        permits := p.permits + 1 }
  | .send i =>
    -- what is sent to a collector that has stopped is lost
    if p.desk.isClosed then
      p.outgoing[i]?.map fun _ =>
        { p with outgoing := p.outgoing.eraseIdx i, leaving := p.leaving + 1 }
    else if p.channel.length < p.capacity then
      p.outgoing[i]?.map fun result =>
        { p with
          outgoing := p.outgoing.eraseIdx i
          leaving := p.leaving + 1
          channel := p.channel ++ [result] }
    else none
  | .leave =>
    match p.leaving with
    | leaving + 1 => some { p with leaving := leaving }
    | 0 => none
  | .receive =>
    match p.channel, p.desk with
    | result :: channel, .empty => some { p with channel := channel, desk := .received result }
    | _, _ => none
  | .tell =>
    match p.desk with
    | .received result => some { p with desk := .shown result, shown := p.shown ++ [result] }
    | _ => none
  | .record =>
    match p.desk with
    | .shown result => some { p with desk := .empty, recorded := p.recorded ++ [result] }
    | _ => none
  | .close =>
    match p.channel, p.desk, p.senders with
    | [], .empty, 0 => some { p with desk := .closed }
    | _, _, _ => none

/-- The jobs that are being worked on. -/
def active (p : Pool α β) : Nat := p.running.length

/-- The collector has stopped, for which it waits until nobody can send any more. -/
def done (p : Pool α β) : Bool := p.desk.isClosed

/-! ## Runs -/

/-- A bound on the moves that are left, a job in the first stage having nine before it. -/
def remaining (p : Pool α β) : Nat :=
  9 * p.waiting.length + (if p.next.isSome then 8 else 0) + (if p.feeding then 1 else 0) +
    7 * p.running.length + 6 * p.finished.length + 5 * p.outgoing.length + p.leaving +
    3 * p.channel.length + p.desk.remaining

/-- The order in which moves are tried: results are brought home before new jobs are taken. -/
def preference : List Move :=
  [.record, .tell, .receive, .send 0, .release 0, .finish 0, .leave, .start, .acquire, .hangUp,
    .close]

def advance? (work : α → β) (p : Pool α β) : Option (Pool α β) :=
  preference.findSome? (p.step? work)

/-- At most `n` moves. -/
def runFor (work : α → β) : Nat → Pool α β → Pool α β
  | 0, p => p
  | n + 1, p =>
    match p.advance? work with
    | some q => runFor work n q
    | none => p

/-- No run has more moves than remain at its start. -/
def run (work : α → β) (p : Pool α β) : Pool α β := runFor work p.remaining p

end Pool

end TemplateBench
