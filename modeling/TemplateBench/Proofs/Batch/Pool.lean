import TemplateBench.Batch.Pool
import Mathlib.Algebra.Order.Group.Multiset
import Mathlib.Data.List.Perm.Basic
import Mathlib.Tactic.Abel

/-!
What holds of a pool in whatever order its parts move.

* `Pool.Step` names the moves that can be made; `step?_iff` says that there are no others.
* `remaining_step`: every move brings one part one stage further, so every run ends.
* `Pool.Sound`: permits and results are neither lost nor made twice, and the collector stops last.
* `Sound.step`: every move keeps this, so it holds of all reachable states.
* `Sound.progress`: until the collector has stopped, some move can be made.
* `Sound.of_done`: then every result has been shown and recorded once.
* `run_perm`: the pool's own run comes to this end.
-/
namespace TemplateBench

/-! ## Lists that gain or lose an element -/

section Lists
variable {γ : Type} {l : List γ}

theorem coe_cons (a : γ) (l : List γ) :
    (↑(a :: l) : Multiset γ) = {a} + ↑l := by
  rw [Multiset.singleton_add, Multiset.cons_coe]

theorem coe_append_singleton (l : List γ) (a : γ) :
    (↑(l ++ [a]) : Multiset γ) = ↑l + {a} := by
  rw [← Multiset.coe_add, Multiset.coe_singleton]

/-- What is taken out of a list at some place. -/
theorem coe_eq_add_eraseIdx {i : Nat} {a : γ} (h : l[i]? = some a) :
    (↑l : Multiset γ) = {a} + ↑(l.eraseIdx i) := by
  obtain ⟨hi, rfl⟩ := List.getElem?_eq_some_iff.mp h
  rw [← coe_cons]
  exact Multiset.coe_eq_coe.mpr (List.getElem_cons_eraseIdx_perm hi).symm

theorem eq_nil_of_getElem?_zero (h : ∀ a, l[0]? ≠ some a) : l = [] := by
  cases l with
  | nil => rfl
  | cons a rest => exact absurd rfl (h a)

theorem length_eraseIdx_add_one {i : Nat} {a : γ} (h : l[i]? = some a) :
    (l.eraseIdx i).length + 1 = l.length := by
  have hi := (List.getElem?_eq_some_iff.mp h).1
  rw [List.length_eraseIdx_of_lt hi]
  omega

end Lists

/-! ## Results in hand -/

namespace Desk

variable {β : Type}

/-- The result that is not recorded yet. -/
def inHand : Desk β → List β
  | .empty => []
  | .received result => [result]
  | .shown result => [result]
  | .closed => []

/-- The result that is shown but not recorded yet. -/
def told : Desk β → List β
  | .shown result => [result]
  | _ => []

theorem eq_closed {desk : Desk β} (h : desk.isClosed = true) : desk = .closed := by
  cases desk with
  | closed => rfl
  | _ => cases h

end Desk

namespace Pool

variable {α β : Type} {work : α → β}

/-! ## Moves -/

/-- A move that can be made, and what it leads to. -/
inductive Step (work : α → β) (p : Pool α β) : Move → Pool α β → Prop
  | acquire {job : α} {waiting : List α} {permits : Nat} :
      p.waiting = job :: waiting → p.next = none → p.permits = permits + 1 →
      Step work p .acquire { p with waiting := waiting, next := some job, permits := permits }
  | start {job : α} : p.next = some job →
      Step work p .start { p with next := none, running := p.running ++ [job] }
  | hangUp : p.waiting = [] → p.next = none → p.feeding = true →
      Step work p .hangUp { p with feeding := false }
  | finish {i : Nat} {job : α} : p.running[i]? = some job →
      Step work p (.finish i)
        { p with running := p.running.eraseIdx i, finished := p.finished ++ [work job] }
  | release {i : Nat} {result : β} : p.finished[i]? = some result →
      Step work p (.release i)
        { p with
          finished := p.finished.eraseIdx i
          outgoing := p.outgoing ++ [result]
          permits := p.permits + 1 }
  | lose {i : Nat} {result : β} : p.desk = .closed → p.outgoing[i]? = some result →
      Step work p (.send i)
        { p with outgoing := p.outgoing.eraseIdx i, leaving := p.leaving + 1 }
  | send {i : Nat} {result : β} : p.desk.isClosed = false → p.channel.length < p.capacity →
      p.outgoing[i]? = some result →
      Step work p (.send i)
        { p with
          outgoing := p.outgoing.eraseIdx i
          leaving := p.leaving + 1
          channel := p.channel ++ [result] }
  | leave {leaving : Nat} : p.leaving = leaving + 1 →
      Step work p .leave { p with leaving := leaving }
  | receive {result : β} {channel : List β} : p.channel = result :: channel → p.desk = .empty →
      Step work p .receive { p with channel := channel, desk := .received result }
  | tell {result : β} : p.desk = .received result →
      Step work p .tell { p with desk := .shown result, shown := p.shown ++ [result] }
  | record {result : β} : p.desk = .shown result →
      Step work p .record { p with desk := .empty, recorded := p.recorded ++ [result] }
  | close : p.channel = [] → p.desk = .empty → p.senders = 0 →
      Step work p .close { p with desk := .closed }

theorem step_of_step? {p q : Pool α β} {m : Move} (h : p.step? work m = some q) :
    Step work p m q := by
  cases m with
  | acquire =>
    simp only [step?] at h
    split at h
    · rename_i hw hn hp
      cases h
      exact .acquire hw hn hp
    · cases h
  | start =>
    obtain ⟨job, hj, rfl⟩ := Option.map_eq_some_iff.mp h
    exact .start hj
  | hangUp =>
    simp only [step?] at h
    split at h
    · rename_i hw hn hf
      cases h
      exact .hangUp hw hn hf
    · cases h
  | finish i =>
    obtain ⟨job, hj, rfl⟩ := Option.map_eq_some_iff.mp h
    exact .finish hj
  | release i =>
    obtain ⟨result, hr, rfl⟩ := Option.map_eq_some_iff.mp h
    exact .release hr
  | send i =>
    simp only [step?] at h
    split at h
    · rename_i hc
      obtain ⟨result, hr, rfl⟩ := Option.map_eq_some_iff.mp h
      exact .lose (Desk.eq_closed hc) hr
    · rename_i hc
      split at h
      · rename_i hroom
        obtain ⟨result, hr, rfl⟩ := Option.map_eq_some_iff.mp h
        exact .send (Bool.eq_false_iff.mpr hc) hroom hr
      · cases h
  | leave =>
    simp only [step?] at h
    split at h
    · rename_i hl
      cases h
      exact .leave hl
    · cases h
  | receive =>
    simp only [step?] at h
    split at h
    · rename_i hc hd
      cases h
      exact .receive hc hd
    · cases h
  | tell =>
    simp only [step?] at h
    split at h
    · rename_i hd
      cases h
      exact .tell hd
    · cases h
  | record =>
    simp only [step?] at h
    split at h
    · rename_i hd
      cases h
      exact .record hd
    · cases h
  | close =>
    simp only [step?] at h
    split at h
    · rename_i hc hd hs
      cases h
      exact .close hc hd hs
    · cases h

theorem step?_of_step {p q : Pool α β} {m : Move} (h : Step work p m q) :
    p.step? work m = some q := by
  cases h with
  | acquire hw hn hp => simp [step?, hw, hn, hp]
  | start hj => simp [step?, hj]
  | hangUp hw hn hf => simp [step?, hw, hn, hf]
  | finish hj => simp [step?, hj]
  | release hr => simp [step?, hr]
  | lose hc hr => simp [step?, hc, hr, Desk.isClosed]
  | send hc hroom hr => simp [step?, hc, hroom, hr]
  | leave hl => simp [step?, hl]
  | receive hc hd => simp [step?, hc, hd]
  | tell hd => simp [step?, hd]
  | record hd => simp [step?, hd]
  | close hc hd hs => simp [step?, hc, hd, hs]

theorem step?_iff {p q : Pool α β} {m : Move} : p.step? work m = some q ↔ Step work p m q :=
  ⟨step_of_step?, step?_of_step⟩

/-- Every move brings one part one stage further. -/
theorem remaining_step {p q : Pool α β} {m : Move} (hs : Step work p m q) :
    q.remaining < p.remaining := by
  cases hs with
  | acquire hw hn hp =>
    simp [remaining, hw, hn]
    omega
  | start hj =>
    simp [remaining, hj]
    omega
  | hangUp hw hn hf => simp [remaining, hf]
  | finish hj =>
    have hlen := length_eraseIdx_add_one hj
    simp [remaining]
    omega
  | release hr =>
    have hlen := length_eraseIdx_add_one hr
    simp [remaining]
    omega
  | lose hc hr =>
    have hlen := length_eraseIdx_add_one hr
    simp [remaining]
    omega
  | send hc hroom hr =>
    have hlen := length_eraseIdx_add_one hr
    simp [remaining]
    omega
  | leave hl => simp [remaining, hl]
  | receive hc hd =>
    simp [remaining, hc, hd, Desk.remaining]
    omega
  | tell hd => simp [remaining, hd, Desk.remaining]
  | record hd => simp [remaining, hd, Desk.remaining]
  | close hc hd hs => simp [remaining, hd, Desk.remaining]

/-! ## Reachable states -/

/-- States that some moves lead to, in whatever order. -/
inductive Reaches (work : α → β) (p : Pool α β) : Pool α β → Prop
  | refl : Reaches work p p
  | step {q r : Pool α β} {m : Move} : Reaches work p q → q.step? work m = some r →
      Reaches work p r

/-- All results, those that are not worked out yet included. -/
def results (work : α → β) (p : Pool α β) : Multiset β :=
  ↑p.recorded + ↑p.desk.inHand + ↑p.channel + ↑p.outgoing + ↑p.finished +
    ↑(p.running.map work) + ↑(p.next.toList.map work) + ↑(p.waiting.map work)

/-- A pool for some workers and jobs in good order. -/
structure Sound (work : α → β) (workers : Nat) (jobs : List α) (p : Pool α β) : Prop where
  permits : p.permits + p.next.toList.length + p.running.length + p.finished.length =
    max workers 1
  capacity : p.capacity = max workers 1 * 2
  /-- Whoever hands out jobs hangs up when there are none. -/
  hungUp : p.feeding = false → p.waiting = [] ∧ p.next = none
  /-- The collector stops when nobody can send and everything is recorded. -/
  closed : p.desk = .closed → p.senders = 0 ∧ p.channel = []
  shown : p.shown = p.recorded ++ p.desk.told
  results : p.results work = ↑(jobs.map work)

theorem senders_eq_zero {p : Pool α β} :
    p.senders = 0 ↔ p.feeding = false ∧ p.running = [] ∧ p.finished = [] ∧ p.outgoing = [] ∧
      p.leaving = 0 := by
  simp [senders, and_assoc]

namespace Sound

variable {workers : Nat} {jobs : List α} {p q : Pool α β}

theorem start (work : α → β) (workers : Nat) (jobs : List α) :
    (Pool.start workers jobs).Sound work workers jobs where
  permits := rfl
  capacity := rfl
  hungUp := fun h => by cases h
  closed := fun h => by cases h
  shown := rfl
  results := by simp [Pool.results, Pool.start, Desk.inHand]

/-! ### Every move -/

/-- When the collector has stopped, nothing moves any more. -/
theorem not_step_of_closed {m : Move} (h : p.Sound work workers jobs) (hc : p.desk = .closed) :
    ¬ Step work p m q := by
  obtain ⟨hsenders, hchannel⟩ := h.closed hc
  obtain ⟨hf, hrunning, hfinished, houtgoing, hleaving⟩ := senders_eq_zero.mp hsenders
  obtain ⟨hwaiting, hnext⟩ := h.hungUp hf
  intro hs
  cases hs with
  | acquire hw _ _ => rw [hwaiting] at hw; cases hw
  | start hj => rw [hnext] at hj; cases hj
  | hangUp _ _ hf' => rw [hf] at hf'; cases hf'
  | finish hj => simp [hrunning] at hj
  | release hr => simp [hfinished] at hr
  | lose _ hr => simp [houtgoing] at hr
  | send _ _ hr => simp [houtgoing] at hr
  | leave hl => rw [hleaving] at hl; cases hl
  | receive _ hd => rw [hc] at hd; cases hd
  | tell hd => rw [hc] at hd; cases hd
  | record hd => rw [hc] at hd; cases hd
  | close _ hd _ => rw [hc] at hd; cases hd

/-- No result is lost or made twice. -/
theorem results_step {m : Move} (h : p.Sound work workers jobs) (hs : Step work p m q) :
    q.results work = p.results work := by
  cases hs with
  | acquire hw hn hp =>
    simp only [Pool.results, hw, hn, Option.toList, List.map_cons, List.map_nil, coe_cons,
      Multiset.coe_nil]
    abel
  | start hj =>
    simp only [Pool.results, hj, Option.toList, List.map_append, List.map_cons, List.map_nil,
      coe_append_singleton, coe_cons, Multiset.coe_nil]
    abel
  | hangUp hw hn hf => rfl
  | @finish i job hj =>
    have hm : (p.running.map work)[i]? = some (work job) := by simp [hj]
    simp only [Pool.results, coe_eq_add_eraseIdx hm, List.eraseIdx_map, coe_append_singleton]
    abel
  | release hr =>
    simp only [Pool.results, coe_eq_add_eraseIdx hr, coe_append_singleton]
    abel
  | lose hc hr => exact absurd (.lose hc hr) (h.not_step_of_closed hc)
  | send hc hroom hr =>
    simp only [Pool.results, coe_eq_add_eraseIdx hr, coe_append_singleton]
    abel
  | leave hl => rfl
  | receive hc hd =>
    simp only [Pool.results, hc, hd, Desk.inHand, coe_cons, Multiset.coe_nil]
    abel
  | tell hd => simp only [Pool.results, hd, Desk.inHand]
  | record hd =>
    simp only [Pool.results, hd, Desk.inHand, coe_append_singleton, coe_cons, Multiset.coe_nil]
    abel
  | close hc hd hs => simp only [Pool.results, hd, Desk.inHand]

theorem permits_step {m : Move} (hs : Step work p m q) :
    q.permits + q.next.toList.length + q.running.length + q.finished.length =
      p.permits + p.next.toList.length + p.running.length + p.finished.length := by
  cases hs with
  | acquire hw hn hp =>
    simp only [hn, hp, Option.toList, List.length_cons, List.length_nil]
  | start hj =>
    simp only [hj, Option.toList, List.length_append, List.length_cons, List.length_nil]
    omega
  | finish hj =>
    have hlen := length_eraseIdx_add_one hj
    simp only [List.length_append, List.length_singleton]
    omega
  | release hr =>
    have hlen := length_eraseIdx_add_one hr
    simp only
    omega
  | _ => rfl

theorem step {m : Move} (h : p.Sound work workers jobs) (hs : Step work p m q) :
    q.Sound work workers jobs := by
  have hresults := (h.results_step hs).trans h.results
  have hpermits := (permits_step hs).trans h.permits
  have hopen : p.desk ≠ .closed := fun hc => h.not_step_of_closed hc hs
  have hclosed : ∀ {P : Prop}, p.desk = .closed → P := fun hc => absurd hc hopen
  have hshown := h.shown
  cases hs with
  | acquire hw hn hp =>
    refine ⟨hpermits, h.capacity, fun hf => ?_, hclosed, hshown, hresults⟩
    rw [(h.hungUp hf).1] at hw
    cases hw
  | start hj =>
    refine ⟨hpermits, h.capacity, fun hf => ?_, hclosed, hshown, hresults⟩
    rw [(h.hungUp hf).2] at hj
    cases hj
  | hangUp hw hn hf => exact ⟨hpermits, h.capacity, fun _ => ⟨hw, hn⟩, hclosed, hshown, hresults⟩
  | finish hj => exact ⟨hpermits, h.capacity, h.hungUp, hclosed, hshown, hresults⟩
  | release hr => exact ⟨hpermits, h.capacity, h.hungUp, hclosed, hshown, hresults⟩
  | lose hc hr => exact hclosed hc
  | send hc hroom hr => exact ⟨hpermits, h.capacity, h.hungUp, hclosed, hshown, hresults⟩
  | leave hl => exact ⟨hpermits, h.capacity, h.hungUp, hclosed, hshown, hresults⟩
  | receive hc hd =>
    rw [hd] at hshown
    exact ⟨hpermits, h.capacity, h.hungUp, fun h' => (by cases h'), hshown, hresults⟩
  | tell hd =>
    refine ⟨hpermits, h.capacity, h.hungUp, fun h' => (by cases h'), ?_, hresults⟩
    simpa [hd, Desk.told] using hshown
  | record hd =>
    refine ⟨hpermits, h.capacity, h.hungUp, fun h' => (by cases h'), ?_, hresults⟩
    simpa [hd, Desk.told] using hshown
  | close hc hd hs =>
    rw [hd] at hshown
    exact ⟨hpermits, h.capacity, h.hungUp, fun _ => ⟨hs, hc⟩, hshown, hresults⟩

theorem of_reaches (h : Reaches work (Pool.start workers jobs) p) :
    p.Sound work workers jobs := by
  induction h with
  | refl => exact start work workers jobs
  | step _ hs ih => exact ih.step (step?_iff.mp hs)

/-! ### Permits -/

/-- Whoever works holds a permit. -/
theorem active_le (h : p.Sound work workers jobs) : p.active ≤ max workers 1 := by
  have hpermits := h.permits
  unfold active
  omega

/-! ### Progress -/

/-- Until the collector has stopped, some move can be made, and a preferred one at that. -/
theorem progress (h : p.Sound work workers jobs) (hd : p.done = false) :
    ∃ m ∈ preference, ∃ q, p.step? work m = some q := by
  by_contra hstuck
  have hno : ∀ m ∈ preference, ∀ q, ¬ Step work p m q := fun m hm q hs =>
    hstuck ⟨m, hm, q, step?_iff.mpr hs⟩
  -- a collector that has a result in hand can go on, and one that has none can take one
  have hdesk : p.desk = .empty := by
    cases hc : p.desk with
    | empty => rfl
    | received result => exact absurd (.tell hc) (hno _ (by decide) _)
    | shown result => exact absurd (.record hc) (hno _ (by decide) _)
    | closed => simp [done, hc, Desk.isClosed] at hd
  have hchannel : p.channel = [] := by
    cases hc : p.channel with
    | nil => rfl
    | cons result rest => exact absurd (.receive hc hdesk) (hno _ (by decide) _)
  -- so the channel has room for whoever wants to send
  have hroom : p.channel.length < p.capacity := by
    rw [hchannel, h.capacity, List.length_nil]
    omega
  have houtgoing : p.outgoing = [] :=
    eq_nil_of_getElem?_zero fun _ hr => hno _ (by decide) _ (.send hd hroom hr)
  have hfinished : p.finished = [] :=
    eq_nil_of_getElem?_zero fun _ hr => hno _ (by decide) _ (.release hr)
  have hrunning : p.running = [] :=
    eq_nil_of_getElem?_zero fun _ hj => hno _ (by decide) _ (.finish hj)
  have hleaving : p.leaving = 0 := by
    cases hc : p.leaving with
    | zero => rfl
    | succ leaving => exact absurd (.leave hc) (hno _ (by decide) _)
  have hnext : p.next = none :=
    Option.eq_none_iff_forall_ne_some.mpr fun _ hj => hno _ (by decide) _ (.start hj)
  -- all permits are free
  have hwaiting : p.waiting = [] := by
    cases hc : p.waiting with
    | nil => rfl
    | cons job rest =>
      have hpermits := h.permits
      rw [hnext, hrunning, hfinished] at hpermits
      obtain ⟨permits, hp⟩ : ∃ permits, p.permits = permits + 1 :=
        Nat.exists_eq_add_one_of_ne_zero (by simp at hpermits; omega)
      exact absurd (.acquire hc hnext hp) (hno _ (by decide) _)
  have hfeeding : p.feeding = false := by
    cases hc : p.feeding with
    | false => rfl
    | true => exact absurd (.hangUp hwaiting hnext hc) (hno _ (by decide) _)
  exact hno _ (by decide) _ (.close hchannel hdesk
    (senders_eq_zero.mpr ⟨hfeeding, hrunning, hfinished, houtgoing, hleaving⟩))

/-! ### The end -/

/-- In the end every result has been shown and recorded once, in one order. -/
theorem of_done (h : p.Sound work workers jobs) (hd : p.done = true) :
    p.shown = p.recorded ∧ p.recorded.Perm (jobs.map work) := by
  have hdesk := Desk.eq_closed hd
  obtain ⟨hsenders, hchannel⟩ := h.closed hdesk
  obtain ⟨hfeeding, hrunning, hfinished, houtgoing, _⟩ := senders_eq_zero.mp hsenders
  obtain ⟨hwaiting, hnext⟩ := h.hungUp hfeeding
  constructor
  · simpa [hdesk, Desk.told] using h.shown
  · have hresults := h.results
    simp only [Pool.results, hdesk, Desk.inHand, hchannel, houtgoing, hfinished, hrunning, hnext,
      hwaiting, Option.toList, List.map_nil, Multiset.coe_nil, add_zero] at hresults
    exact Multiset.coe_eq_coe.mp hresults

end Sound

/-! ## Runs -/

/-- Moves made one after the other. -/
theorem reaches_foldlM {p q r : Pool α β} (moves : List Move) (h : Reaches work p q)
    (hm : moves.foldlM (step? work) q = some r) : Reaches work p r := by
  induction moves generalizing q with
  | nil =>
    cases hm
    exact h
  | cons m rest ih =>
    obtain ⟨next, hs, hrest⟩ := Option.bind_eq_some_iff.mp hm
    exact ih (h.step hs) hrest

theorem step_of_advance? {p q : Pool α β} (h : p.advance? work = some q) :
    ∃ m, Step work p m q := by
  obtain ⟨m, _, hs⟩ := List.exists_of_findSome?_eq_some h
  exact ⟨m, step?_iff.mp hs⟩

theorem reaches_runFor {p q : Pool α β} (n : Nat) (h : Reaches work p q) :
    Reaches work p (runFor work n q) := by
  induction n generalizing q with
  | zero => exact h
  | succ n ih =>
    rw [runFor]
    cases hq : q.advance? work with
    | none => exact h
    | some r =>
      obtain ⟨m, hs⟩ := step_of_advance? hq
      exact ih (h.step (step?_iff.mpr hs))

namespace Sound

variable {workers : Nat} {jobs : List α} {p : Pool α β}

theorem done_of_advance? (h : p.Sound work workers jobs) (ha : p.advance? work = none) :
    p.done = true := by
  cases hd : p.done with
  | true => rfl
  | false =>
    obtain ⟨m, hm, q, hs⟩ := h.progress hd
    have hnone := List.findSome?_eq_none_iff.mp ha m hm
    rw [hs] at hnone
    cases hnone

/-- A run of enough moves ends with the collector stopped. -/
theorem runFor_done (h : p.Sound work workers jobs) (n : Nat) (hn : p.remaining ≤ n) :
    (p.runFor work n).done = true := by
  induction n generalizing p with
  | zero =>
    apply h.done_of_advance?
    cases ha : p.advance? work with
    | none => rfl
    | some q =>
      obtain ⟨m, hs⟩ := step_of_advance? ha
      have hlt := remaining_step hs
      omega
  | succ n ih =>
    rw [runFor]
    cases ha : p.advance? work with
    | none => exact h.done_of_advance? ha
    | some q =>
      obtain ⟨m, hs⟩ := step_of_advance? ha
      have hlt := remaining_step hs
      exact ih (h.step hs) (by omega)

end Sound

/-- **Runs end.** The pool's own run shows and records every result once. -/
theorem run_perm (work : α → β) (workers : Nat) (jobs : List α) :
    ((Pool.start workers jobs).run work).recorded.Perm (jobs.map work) := by
  have hstart := Sound.start work workers jobs
  have hreaches : Reaches work (Pool.start workers jobs) ((Pool.start workers jobs).run work) :=
    reaches_runFor _ .refl
  have hdone := hstart.runFor_done _ (Nat.le_refl _)
  exact ((Sound.of_reaches hreaches).of_done hdone).2

end Pool

end TemplateBench
