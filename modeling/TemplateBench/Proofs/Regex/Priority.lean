import Mathlib.Data.List.Induction
import TemplateBench.Proofs.Regex.Walks

/-!
Threads that read a text together take the preferred way through it.

* `Settled.Kept`: what holds while threads settle at a place. Each one that waits or is done has a
  trace with the ones that wait before it ahead, and all that has been seen is dead but for these.
* `settleOne_after`: one thread with its offspring keeps that.
* `advance_best`: so does a whole text, and at its end nothing is ahead.
* `matchAt_preferred`, `exists_matchAt`: a match is the preferred way, and there is one if there is
  any way.
-/
namespace TemplateBench.Regex

/-! ## Threads as configurations -/

def Thread.config (i : Nat) (t : Thread) : Config := ⟨i, t.tasks.map Task.rested⟩

theorem alike_iff (s t : Task) : s.alike t = true ↔ s.rested = t.rested := by
  cases s <;> cases t <;> simp [Task.alike, Task.rested, and_comm]

theorem sameFuture_iff {ss ts : List Task} :
    sameFuture ss ts = true ↔ ss.map Task.rested = ts.map Task.rested := by
  induction ss generalizing ts with
  | nil => cases ts <;> simp [sameFuture]
  | cons s ss ih =>
    cases ts with
    | nil => simp [sameFuture]
    | cons t ts => simp [sameFuture, alike_iff, ih]

/-- A round that has read nothing began at this place, behind the configurations visited. -/
def Thread.Rounds (i : Nat) (visited : List Config) (t : Thread) : Prop :=
  ∀ p greedy rest, (.again p greedy false :: rest) <:+ t.tasks →
    (⟨i, .run p :: .again p greedy true :: rest.map Task.rested⟩ : Config) ∈ t.config i :: visited

theorem Thread.Rounds.of_rested {i : Nat} {visited : List Config} {t : Thread}
    (h : t.tasks.map Task.rested = t.tasks) : t.Rounds i visited := by
  intro p greedy rest hsuffix
  have hmem : Task.again p greedy false ∈ t.tasks := hsuffix.subset (by simp)
  rw [← h] at hmem
  obtain ⟨task, _, htask⟩ := List.mem_map.mp hmem
  cases task <;> cases htask

/-- A new task of a round that has read nothing is behind the body that begins it. -/
theorem Thread.Rounds.choice {i : Nat} {visited : List Config} {place : Place} {task : Task}
    {rest new : List Task} {borders borders' set : List Border}
    (h : Rounds i visited ⟨task :: rest, borders⟩) (hc : task.Choice place new set) :
    Rounds i (config i ⟨task :: rest, borders⟩ :: visited) ⟨new ++ rest, borders'⟩ := by
  have hold : ∀ p greedy more, (.again p greedy false :: more) <:+ rest →
      (⟨i, .run p :: .again p greedy true :: more.map Task.rested⟩ : Config) ∈
        config i ⟨new ++ rest, borders'⟩ :: config i ⟨task :: rest, borders⟩ :: visited :=
    fun p greedy more hm =>
      List.mem_cons_of_mem _ (h p greedy more (hm.trans (List.suffix_cons _ _)))
  intro p greedy more hsuffix
  cases hc with
  | close | leave | empty | look | skip => exact hold p greedy more hsuffix
  | group | seq | left | right | least | counted =>
    refine hold p greedy more ?_
    simpa [List.suffix_cons_iff] using hsuffix
  | round q | enter q =>
    simp only [List.cons_append, List.nil_append, List.suffix_cons_iff, List.cons.injEq,
      Task.again.injEq, reduceCtorEq, false_and, false_or, and_true] at hsuffix
    rcases hsuffix with ⟨⟨rfl, rfl⟩, rfl⟩ | hsuffix
    · exact List.mem_cons_self
    · exact hold p greedy more hsuffix

/-- A round may begin again in the configuration of a thread, also where it has read nothing. -/
theorem nexts_again (text : List Char) (i : Nat) (p : Pattern) (greedy moved : Bool)
    (rest : List Task) (borders : List Border) :
    (Thread.config i ⟨.again p greedy moved :: rest, borders⟩).nexts text =
      prefer greedy (⟨i, .run p :: .again p greedy true :: rest.map Task.rested⟩, [])
        (Thread.config i ⟨rest, borders⟩, []) := by
  cases greedy <;> rfl

/-- The steps of any other task are those of the thread. -/
theorem nexts_rested {text : List Char} {i : Nat} {task : Task} (hrested : task.rested = task)
    {choices : List (List Task × List Border)}
    (h : task.unfold (placeAt text i) = some choices) (rest : List Task) (borders : List Border) :
    (Thread.config i ⟨task :: rest, borders⟩).nexts text =
      choices.map fun c => (Thread.config i ⟨c.1 ++ rest, c.2 ++ borders⟩, c.2) := by
  simp only [Thread.config, List.map_cons, hrested, Config.nexts, h, List.map_append]

theorem Task.rested_cases (task : Task) :
    (∃ p greedy, task = .again p greedy false) ∨ task.rested = task := by
  cases task with
  | run p => exact .inr rfl
  | close g => exact .inr rfl
  | again p greedy moved =>
    cases moved with
    | true => exact .inr rfl
    | false => exact .inl ⟨p, greedy, rfl⟩

/-- What a thread becomes stands for the steps of its configuration, in their order, but for rounds
that would begin again without having read. -/
theorem unfold_nexts {text : List Char} {i : Nat} {visited : List Config} {t : Thread}
    {us : List Thread} (hr : t.Rounds i visited) (h : t.unfold (placeAt text i) = some us) :
    (∀ c ∈ (t.config i).nexts text, c.1.position = i ∧
      (c.1 ∈ t.config i :: visited ∨ ∃ u ∈ us, u.config i = c.1)) ∧
    ∀ earlier u later, us = earlier ++ u :: later →
      u.Rounds i (t.config i :: visited) ∧
      ∃ before new after, (t.config i).nexts text = before ++ (u.config i, new) :: after ∧
        u.borders = new ++ t.borders ∧
        ∀ c ∈ before, c.1 ∈ t.config i :: visited ∨ ∃ u ∈ earlier, u.config i = c.1 := by
  obtain ⟨tasks, borders⟩ := t
  cases tasks with
  | nil => cases h
  | cons task rest =>
    rcases task.rested_cases with ⟨p, greedy, rfl⟩ | hrested
    · cases h
      have hbody := hr p greedy rest (List.suffix_refl _)
      rw [nexts_again]
      refine ⟨fun c hc => ?_, fun earlier u later hus => ?_⟩
      · rcases prefer_mem hc with rfl | rfl
        · exact ⟨rfl, .inl hbody⟩
        · exact ⟨rfl, .inr ⟨_, List.mem_singleton_self _, rfl⟩⟩
      · obtain ⟨rfl, rfl, rfl⟩ : earlier = [] ∧ u = ⟨rest, borders⟩ ∧ later = [] := by
          simpa [List.append_eq_singleton_iff] using hus.symm
        have hleave : Task.Choice (placeAt text i) (.again p greedy false) [] [] :=
          .leave p greedy false
        refine ⟨hr.choice hleave, ?_⟩
        cases greedy with
        | true => exact ⟨[_], [], [], rfl, rfl, List.forall_mem_singleton.mpr (.inl hbody)⟩
        | false => exact ⟨[], [], [_], rfl, rfl, by simp⟩
    · rw [unfold_cons] at h
      obtain ⟨choices, hchoices, rfl⟩ := Option.map_eq_some_iff.mp h
      rw [nexts_rested hrested hchoices]
      refine ⟨fun c hc => ?_, fun earlier u later hus => ?_⟩
      · obtain ⟨choice, hchoice, rfl⟩ := List.mem_map.mp hc
        exact ⟨rfl, .inr ⟨_, List.mem_map_of_mem hchoice, rfl⟩⟩
      · obtain ⟨before, more, rfl, rfl, hmore⟩ := List.map_eq_append_iff.mp hus
        obtain ⟨choice, after, rfl, rfl, rfl⟩ := List.map_eq_cons_iff.mp hmore
        refine ⟨hr.choice (Task.choice_of_unfold hchoices choice (by simp)), ?_⟩
        refine ⟨before.map _, choice.2, after.map _, by rw [List.map_append, List.map_cons], rfl,
          fun c hc => ?_⟩
        obtain ⟨choice, hchoice, rfl⟩ := List.mem_map.mp hc
        exact .inr ⟨_, List.mem_map_of_mem hchoice, rfl⟩

/-! ## Settling -/

namespace Settled

def seenAt (i : Nat) (acc : Settled) : List Config :=
  acc.seen.map fun tasks => ⟨i, tasks.map Task.rested⟩

def waitingAt (i : Nat) (acc : Settled) : List Config := acc.waiting.map (Thread.config i)

theorem mem_seenAt_iff {i : Nat} {acc : Settled} {t : Thread} :
    t.config i ∈ acc.seenAt i ↔ acc.seen.any (sameFuture t.tasks) = true := by
  simp only [seenAt, Thread.config, List.mem_map, List.any_eq_true, sameFuture_iff, Config.mk.injEq,
    true_and]
  exact exists_congr fun tasks => and_congr_right fun _ => eq_comm

theorem position_of_mem_seenAt {i : Nat} {acc : Settled} {c : Config} (h : c ∈ acc.seenAt i) :
    c.position = i := by
  obtain ⟨tasks, _, rfl⟩ := List.mem_map.mp h
  rfl

variable {text : List Char} {root : Config} {i : Nat} {visited : List Config}

/-- What holds at a place while the configurations `visited` are being entered. -/
structure Kept (text : List Char) (root : Config) (i : Nat) (visited : List Config)
    (acc : Settled) : Prop where
  waiting : ∀ later t earlier, acc.waiting = later ++ t :: earlier →
    t.tasks ≠ [] ∧ t.unfold (placeAt text i) = none ∧
    ∃ visited, (t.config i :: visited).Nodup ∧ (∀ c ∈ visited, c.position ≤ i) ∧
      Trace text root (earlier.map (Thread.config i)) visited t.borders (t.config i)
  done : ∀ borders, acc.done = some borders →
    ∃ visited, (⟨i, []⟩ :: visited : List Config).Nodup ∧
      Trace text root (acc.waitingAt i) visited borders ⟨i, []⟩
  closed : acc.done = none → ∀ c ∈ acc.seenAt i,
    c ∈ visited ∨ c ∈ acc.waitingAt i ∨
      c.tasks ≠ [] ∧ ∀ next ∈ c.nexts text, next.1 ∈ acc.seenAt i

/-- Without a thread that is done, all that has been seen leads to threads that wait. -/
theorem Kept.dead {acc : Settled} (h : acc.Kept text root i visited) (hdone : acc.done = none)
    {c : Config} (hc : c ∈ acc.seenAt i) : Dead text (visited ++ acc.waitingAt i) c := by
  intro stop hr
  generalize hv : (⟨stop, []⟩ : Config) = v at hr
  induction hr with
  | refl hnot =>
    rcases h.closed hdone _ hc with hm | hm | ⟨htasks, _⟩
    · exact hnot (List.mem_append_left _ hm)
    · exact hnot (List.mem_append_right _ hm)
    · exact htasks (hv ▸ rfl)
  | step hnot hn _ ih =>
    rcases h.closed hdone _ hc with hm | hm | ⟨_, hnexts⟩
    · exact hnot (List.mem_append_left _ hm)
    · exact hnot (List.mem_append_right _ hm)
    · exact ih (hnexts _ hn) hv

/-- A configuration that is entered is seen from then on. -/
theorem Kept.enter {acc : Settled} (h : acc.Kept text root i visited) (t : Thread) :
    Kept text root i (t.config i :: visited) { acc with seen := t.tasks :: acc.seen } := by
  refine ⟨h.waiting, h.done, fun hdone c hc => ?_⟩
  rcases List.mem_cons.mp hc with rfl | hc
  · exact .inl List.mem_cons_self
  · rcases h.closed hdone c hc with hm | hm | ⟨htasks, hnexts⟩
    · exact .inl (List.mem_cons_of_mem _ hm)
    · exact .inr (.inl hm)
    · exact .inr (.inr ⟨htasks, fun n hn => List.mem_cons_of_mem _ (hnexts n hn)⟩)

/-- Settling goes on from one state to another. -/
structure Extends (i : Nat) (acc acc' : Settled) : Prop where
  seen : ∀ c ∈ acc.seenAt i, c ∈ acc'.seenAt i
  waiting : ∀ c ∈ acc.waitingAt i, c ∈ acc'.waitingAt i
  done : acc'.done = none → acc.done = none

theorem Extends.refl (acc : Settled) : acc.Extends i acc := ⟨fun _ h => h, fun _ h => h, id⟩

theorem Extends.trans {a b c : Settled} (h : a.Extends i b) (h' : b.Extends i c) : a.Extends i c :=
  ⟨fun x hx => h'.seen x (h.seen x hx), fun x hx => h'.waiting x (h.waiting x hx),
    fun hd => h.done (h'.done hd)⟩

/-- The state after some threads have settled. -/
structure After (text : List Char) (root : Config) (i : Nat) (visited : List Config)
    (ts : List Thread) (acc acc' : Settled) : Prop where
  goesOn : acc.Extends i acc'
  kept : acc'.Kept text root i visited
  seen : acc'.done = none → ∀ t ∈ ts, t.config i ∈ acc'.seenAt i

/-- Threads that settle one after the other, each one behind those before it. -/
theorem After.foldl {f : Settled → Thread → Settled} {acc : Settled}
    (hacc : acc.Kept text root i visited) (us : List Thread)
    (hf : ∀ earlier u later, us = earlier ++ u :: later → ∀ acc',
      After text root i visited earlier acc acc' →
        After text root i visited [u] acc' (f acc' u)) :
    After text root i visited us acc (us.foldl f acc) := by
  induction us using List.reverseRecOn with
  | nil => exact ⟨.refl acc, hacc, by simp⟩
  | append_singleton us u ih =>
    have hus := ih fun earlier u' later he acc' h =>
      hf earlier u' (later ++ [u]) (by simp [he]) acc' h
    have hu := hf us u [] rfl _ hus
    rw [List.foldl_append, List.foldl_cons, List.foldl_nil]
    refine ⟨hus.goesOn.trans hu.goesOn, hu.kept, fun hdone t ht => ?_⟩
    rcases List.mem_append.mp ht with ht | ht
    · exact hu.goesOn.seen _ (hus.seen (hu.goesOn.done hdone) t ht)
    · exact hu.seen hdone t ht

/-- A thread that comes next at its place, behind the configurations visited. -/
structure Next (text : List Char) (root : Config) (i : Nat) (visited : List Config)
    (acc : Settled) (t : Thread) : Prop where
  nodup : visited.Nodup
  old : ∀ c ∈ visited, c.position < i ∨ c ∈ acc.seenAt i
  trace : Trace text root (acc.waitingAt i) visited t.borders (t.config i)
  rounds : t.Rounds i visited

theorem Next.visited_le {acc : Settled} {t : Thread} (h : acc.Next text root i visited t) :
    ∀ c ∈ visited, c.position ≤ i := by
  intro c hc
  rcases h.old c hc with hlt | hseen
  · exact Nat.le_of_lt hlt
  · exact Nat.le_of_eq (position_of_mem_seenAt hseen)

theorem Next.nodup_cons {acc : Settled} {t : Thread} (h : acc.Next text root i visited t)
    (hnew : t.config i ∉ acc.seenAt i) : (t.config i :: visited).Nodup := by
  refine List.nodup_cons.mpr ⟨fun hm => ?_, h.nodup⟩
  rcases h.old _ hm with hlt | hseen
  · exact absurd hlt (Nat.lt_irrefl i)
  · exact hnew hseen

/-- A new thread that must read waits. -/
theorem After.wait {acc : Settled} {t : Thread} (hacc : acc.Kept text root i visited)
    (ht : acc.Next text root i visited t) (hnew : t.config i ∉ acc.seenAt i)
    (hdone : acc.done = none) (htasks : t.tasks ≠ [])
    (hunfold : t.unfold (placeAt text i) = none) :
    After text root i visited [t] acc
      { acc with seen := t.tasks :: acc.seen, waiting := t :: acc.waiting } := by
  refine ⟨⟨fun c hc => List.mem_cons_of_mem _ hc, fun c hc => List.mem_cons_of_mem _ hc, id⟩,
    ⟨?_, ?_, ?_⟩, fun _ => List.forall_mem_singleton.mpr List.mem_cons_self⟩
  · intro later u earlier he
    cases later with
    | nil =>
      obtain ⟨rfl, rfl⟩ := List.cons.inj he
      exact ⟨htasks, hunfold, visited, ht.nodup_cons hnew, ht.visited_le, ht.trace⟩
    | cons _ later => exact hacc.waiting later u earlier (List.cons.inj he).2
  · intro borders hb
    rw [hdone] at hb
    cases hb
  · intro _ c hc
    rcases List.mem_cons.mp hc with rfl | hc
    · exact .inr (.inl List.mem_cons_self)
    · rcases hacc.closed hdone c hc with hm | hm | ⟨htasks, hnexts⟩
      · exact .inl hm
      · exact .inr (.inl (List.mem_cons_of_mem _ hm))
      · exact .inr (.inr ⟨htasks, fun n hn => List.mem_cons_of_mem _ (hnexts n hn)⟩)

/-- A new thread with nothing left to do is done. -/
theorem After.finish {acc : Settled} {borders : List Border} (hacc : acc.Kept text root i visited)
    (ht : acc.Next text root i visited ⟨[], borders⟩)
    (hnew : Thread.config i ⟨[], borders⟩ ∉ acc.seenAt i) :
    After text root i visited [⟨[], borders⟩] acc
      { acc with seen := [] :: acc.seen, done := some borders } := by
  refine ⟨⟨fun c hc => List.mem_cons_of_mem _ hc, fun c hc => hc, by simp⟩,
    ⟨hacc.waiting, fun _ hb => ?_, by simp⟩, by simp⟩
  obtain rfl := Option.some.inj hb
  exact ⟨visited, ht.nodup_cons hnew, ht.trace⟩

/-- A thread of which all has settled that comes of it. -/
theorem After.leave {acc acc' : Settled} {t : Thread} {us : List Thread}
    (ht : acc.Next text root i visited t) (hunfold : t.unfold (placeAt text i) = some us)
    (h : After text root i (t.config i :: visited) us
      { acc with seen := t.tasks :: acc.seen } acc') :
    After text root i visited [t] acc acc' := by
  have hentered : ∀ c ∈ t.config i :: visited, c.position = i → c ∈ acc'.seenAt i := by
    intro c hc hposition
    refine h.goesOn.seen c ?_
    rcases List.mem_cons.mp hc with rfl | hc
    · exact List.mem_cons_self
    · rcases ht.old c hc with hlt | hseen
      · exact absurd hposition (Nat.ne_of_lt hlt)
      · exact List.mem_cons_of_mem _ hseen
  have hself := hentered _ List.mem_cons_self rfl
  have hextends : acc.Extends i acc' :=
    ⟨fun c hc => h.goesOn.seen c (List.mem_cons_of_mem _ hc), h.goesOn.waiting, h.goesOn.done⟩
  refine ⟨hextends, ⟨h.kept.waiting, h.kept.done, fun hdone c hc => ?_⟩,
    fun _ => List.forall_mem_singleton.mpr hself⟩
  rcases h.kept.closed hdone c hc with hm | hm | hm
  · rcases List.mem_cons.mp hm with rfl | hm
    · refine .inr (.inr ⟨?_, fun next hn => ?_⟩)
      · obtain ⟨tasks, borders⟩ := t
        cases tasks with
        | nil => cases hunfold
        | cons task rest => simp [Thread.config]
      · obtain ⟨hposition, hm | ⟨u, hu, he⟩⟩ := (unfold_nexts ht.rounds hunfold).1 next hn
        · exact hentered _ hm hposition
        · exact he ▸ h.seen hdone u hu
    · exact .inl hm
  · exact .inr (.inl hm)
  · exact .inr (.inr hm)

/-- What comes of a thread comes next behind it, in its order. -/
theorem Next.unfold {acc acc' : Settled} {t u : Thread} {us earlier later : List Thread}
    (ht : acc.Next text root i visited t) (hnew : t.config i ∉ acc.seenAt i)
    (hunfold : t.unfold (placeAt text i) = some us) (hus : us = earlier ++ u :: later)
    (h : After text root i (t.config i :: visited) earlier
      { acc with seen := t.tasks :: acc.seen } acc') (hdone : acc'.done = none) :
    acc'.Next text root i (t.config i :: visited) u := by
  obtain ⟨hrounds, before, new, after, hnexts, hborders, hbefore⟩ :=
    (unfold_nexts ht.rounds hunfold).2 earlier u later hus
  refine ⟨ht.nodup_cons hnew, fun c hc => ?_, ?_, hrounds⟩
  · rcases List.mem_cons.mp hc with rfl | hc
    · exact .inr (h.goesOn.seen _ List.mem_cons_self)
    · exact (ht.old c hc).imp_right fun hseen => h.goesOn.seen c (List.mem_cons_of_mem _ hseen)
  · rw [hborders]
    have htrace := ht.trace.replace fun c hc => .of_mem (h.goesOn.waiting c hc)
    refine .step htrace hnexts fun c hc => ?_
    rcases hbefore c hc with hm | ⟨u', hu', he⟩
    · exact .of_mem (List.mem_append_left _ hm)
    · exact he ▸ h.kept.dead hdone (h.seen hdone u' hu')

end Settled

open Settled in
/-- **Settling.** A thread that comes next settles with all that comes of it. -/
theorem settleOne_after {text : List Char} {root : Config} {i : Nat} (n : Nat) :
    ∀ {t : Thread} {acc : Settled} {visited : List Config}, t.weight < n →
      acc.Kept text root i visited → (acc.done = none → acc.Next text root i visited t) →
      After text root i visited [t] acc (settleOne (placeAt text i) n t acc) := by
  induction n with
  | zero => exact fun hn => absurd hn (Nat.not_lt_zero _)
  | succ n ih =>
    intro t acc visited hn hacc ht
    rw [settleOne]
    split
    · rename_i hskip
      refine ⟨.refl acc, hacc, fun hdone => List.forall_mem_singleton.mpr ?_⟩
      exact mem_seenAt_iff.mpr (by simpa [hdone] using hskip)
    · rename_i hnew
      rw [Bool.or_eq_true, not_or, Bool.not_eq_true, Option.isSome_eq_false_iff,
        Option.isNone_iff_eq_none, ← mem_seenAt_iff (i := i)] at hnew
      obtain ⟨hdone, hnew⟩ := hnew
      have ht := ht hdone
      obtain ⟨tasks, borders⟩ := t
      dsimp only
      split
      · exact After.finish hacc ht hnew
      · rename_i htasks
        split
        · rename_i hunfold
          exact After.wait hacc ht hnew hdone htasks hunfold
        · rename_i us hunfold
          refine After.leave ht hunfold
            (After.foldl (hacc.enter _) us fun earlier u later hus _ h => ?_)
          have hweight := unfold_weight hunfold u (by simp [hus])
          exact ih (by omega) h.kept (ht.unfold hnew hunfold hus h)

/-! ## Reading -/

section

variable {text : List Char} {root : Config} {i : Nat}

/-- Threads at the start of a place, each one behind those before it. -/
def Lined (text : List Char) (root : Config) (i : Nat) (ts : List Thread) : Prop :=
  ∀ earlier t later, ts = earlier ++ t :: later →
    t.tasks.map Task.rested = t.tasks ∧
    ∃ visited, visited.Nodup ∧ (∀ c ∈ visited, c.position < i) ∧
      Trace text root (earlier.map (Thread.config i)) visited t.borders (t.config i)

/-- The match found last, with the configurations ahead of it. -/
def Best (text : List Char) (root : Config) (ahead : List Config) :
    Option (Nat × List Border) → Prop
  | none => Dead text ahead root
  | some (stop, borders) => ∃ visited, (⟨stop, []⟩ :: visited : List Config).Nodup ∧
      Trace text root ahead visited borders ⟨stop, []⟩

theorem Best.replace {ahead ahead' : List Config} {best : Option (Nat × List Border)}
    (hahead : ∀ c ∈ ahead, Dead text ahead' c) (h : Best text root ahead best) :
    Best text root ahead' best := by
  cases best with
  | none =>
    change Dead text ([] ++ ahead) root at h
    exact h.replace hahead
  | some best =>
    obtain ⟨visited, hnodup, htrace⟩ := h
    exact ⟨visited, hnodup, htrace.replace hahead⟩

/-- Configurations at earlier places cannot be met again. -/
theorem Settled.Kept.change {acc : Settled} {visited visited' : List Config}
    (h : acc.Kept text root i visited) (hold : ∀ c ∈ visited, c.position < i) :
    acc.Kept text root i visited' := by
  refine ⟨h.waiting, h.done, fun hdone c hc => (h.closed hdone c hc).imp_left fun hm => ?_⟩
  exact absurd (Settled.position_of_mem_seenAt hc) (Nat.ne_of_lt (hold c hm))

open Settled in
theorem settleAll_after {ts : List Thread} (h : Lined text root i ts) :
    After text root i [] ts {} (settleAll (placeAt text i) ts) := by
  refine After.foldl ⟨by simp, by simp, by simp [seenAt]⟩ ts fun earlier t later hts acc hacc => ?_
  obtain ⟨hrested, visited, hnodup, hold, htrace⟩ := h earlier t later hts
  have ht : After text root i visited [t] acc _ :=
    settleOne_after (t.weight + 1) (Nat.lt_succ_self _) (hacc.kept.change (by simp)) fun hdone =>
      ⟨hnodup, fun c hc => .inl (hold c hc), htrace.replace fun c hc => ?_, .of_rested hrested⟩
  · exact ⟨ht.goesOn, ht.kept.change hold, ht.seen⟩
  · obtain ⟨u, hu, rfl⟩ := List.mem_map.mp hc
    exact hacc.kept.dead hdone (hacc.seen hdone u hu)

/-- What is found at a place is ahead of what was found before, and behind the threads that wait. -/
theorem settleAll_best {ts : List Thread} {best : Option (Nat × List Border)}
    (h : Lined text root i ts) (hbest : Best text root (ts.map (Thread.config i)) best) :
    Best text root ((settleAll (placeAt text i) ts).waitingAt i)
      (match (settleAll (placeAt text i) ts).done with
        | some borders => some (i, borders)
        | none => best) := by
  have hafter := settleAll_after h
  split
  · rename_i borders hdone
    exact hafter.kept.done borders hdone
  · rename_i hdone
    refine hbest.replace fun c hc => ?_
    obtain ⟨t, ht, rfl⟩ := List.mem_map.mp hc
    exact hafter.kept.dead hdone (hafter.seen hdone t ht)

/-- A thread that waits goes on with the next character, or not at all. -/
theorem feed_nexts {t : Thread} (h : t.unfold (placeAt text i) = none) :
    (t.config i).nexts text =
      (((text[i]?).bind fun c => t.feed c).map fun u => (u.config (i + 1), [])).toList := by
  obtain ⟨tasks, borders⟩ := t
  cases tasks with
  | nil => cases text[i]? <;> rfl
  | cons task rest =>
    rw [unfold_cons, Option.map_eq_none_iff] at h
    obtain ⟨s, rfl⟩ := Task.exists_chars_of_unfold h
    cases hc : text[i]? with
    | none => simp [Thread.config, Config.nexts, h, hc, Task.reads]
    | some c =>
      cases hs : s.mem c <;> simp [Thread.config, Config.nexts, h, hc, Task.reads, feed_chars, hs]

/-- A thread that waits leads nowhere but through what it becomes. -/
theorem Settled.Kept.dead_waiting {acc : Settled} (h : acc.Kept text root i []) {t : Thread}
    (ht : t ∈ acc.waiting) {ahead : List Config}
    (hahead : ∀ c u, text[i]? = some c → t.feed c = some u → u.config (i + 1) ∈ ahead) :
    Dead text ahead (t.config i) := by
  obtain ⟨later, earlier, hsplit⟩ := List.append_of_mem ht
  obtain ⟨htasks, hunfold, _⟩ := h.waiting later t earlier hsplit
  intro stop hr
  generalize hv : (⟨stop, []⟩ : Config) = v at hr
  cases hr with
  | refl _ => exact htasks (List.map_eq_nil_iff.mp (congrArg Config.tasks hv).symm)
  | step _ hn hr =>
    rw [feed_nexts hunfold, Option.mem_toList] at hn
    obtain ⟨u, hu, rfl⟩ := Option.map_eq_some_iff.mp hn
    obtain ⟨c, hc, hfed⟩ := Option.bind_eq_some_iff.mp hu
    exact hr.not_mem (hahead c u hc hfed)

/-- What the threads that wait become is lined up as they are. -/
theorem lined_feed {acc : Settled} {c : Char} (h : acc.Kept text root i [])
    (hc : text[i]? = some c) :
    Lined text root (i + 1) (acc.waiting.reverse.filterMap (Thread.feed c)) := by
  intro earlier u later hus
  obtain ⟨front, back, hwaiting, rfl, hback⟩ := List.filterMap_eq_append_iff.mp hus
  obtain ⟨skipped, t, back, rfl, hskipped, hfed, rfl⟩ := List.filterMap_eq_cons_iff.mp hback
  rw [List.reverse_eq_iff] at hwaiting
  simp only [List.reverse_append, List.reverse_cons, List.append_assoc, List.singleton_append]
    at hwaiting
  obtain ⟨_, hunfold, visited, hnodup, hle, htrace⟩ := h.waiting _ t _ hwaiting
  have hnexts : (t.config i).nexts text = [] ++ [(u.config (i + 1), [])] := by
    rw [feed_nexts hunfold, hc, Option.bind_some, hfed]
    rfl
  obtain ⟨s, rest, htasks, _, rfl⟩ := exists_of_feed hfed
  refine ⟨Task.map_rested_rested rest, t.config i :: visited, hnodup, fun v hv => ?_, ?_⟩
  · rcases List.mem_cons.mp hv with rfl | hv
    · exact Nat.lt_succ_self i
    · exact Nat.lt_succ_of_le (hle v hv)
  · refine .step (htrace.replace fun v hv => ?_) hnexts (by simp)
    obtain ⟨w, hw, rfl⟩ := List.mem_map.mp hv
    have hwaits : w ∈ acc.waiting := by simpa [hwaiting] using .inr (.inr (by simpa using hw))
    refine h.dead_waiting hwaits fun c' u hc' hu => ?_
    obtain rfl := Option.some.inj (hc.symm.trans hc')
    rcases List.mem_append.mp hw with hw | hw
    · rw [hskipped w (List.mem_reverse.mp hw)] at hu
      cases hu
    · exact List.mem_map_of_mem (List.mem_filterMap.mpr ⟨w, List.mem_reverse.mp hw, hu⟩)

/-- **Reading.** Threads that are lined up at a place read the rest of the text, and what they find
is the best of the whole text. -/
theorem advance_best (rest : List Char) :
    ∀ {i : Nat} {ts : List Thread} {best : Option (Nat × List Border)}, text.drop i = rest →
      Lined text root i ts → Best text root (ts.map (Thread.config i)) best →
      Best text root [] (advance i (placeAt text i).before best ts rest) := by
  induction rest with
  | nil =>
    intro i ts best hrest hts hbest
    cases ts with
    | nil => exact hbest
    | cons t ts =>
      have hend : text[i]? = none := List.getElem?_eq_none (List.drop_eq_nil_iff.mp hrest)
      have hplace : (⟨i, (placeAt text i).before, none⟩ : Place) = placeAt text i := by
        rw [placeAt, hend]
      rw [advance, hplace]
      · refine (settleAll_best hts hbest).replace fun v hv => ?_
        obtain ⟨w, hw, rfl⟩ := List.mem_map.mp hv
        exact (settleAll_after hts).kept.dead_waiting hw fun c u hc _ => by simp [hend] at hc
      · simp
  | cons c rest ih =>
    intro i ts best hrest hts hbest
    cases ts with
    | nil => exact hbest
    | cons t ts =>
      obtain ⟨hc, hrest⟩ := drop_eq_cons hrest
      have hplace : (⟨i, (placeAt text i).before, some c⟩ : Place) = placeAt text i := by
        rw [placeAt, hc]
      simp only [advance, hplace]
      rw [← placeAt_before hc]
      refine ih hrest (lined_feed (settleAll_after hts).kept hc)
        ((settleAll_best hts hbest).replace fun v hv => ?_)
      obtain ⟨w, hw, rfl⟩ := List.mem_map.mp hv
      refine (settleAll_after hts).kept.dead_waiting hw fun c' u hc' hu => ?_
      obtain rfl := Option.some.inj (hc.symm.trans hc')
      exact List.mem_map_of_mem (List.mem_filterMap.mpr ⟨w, List.mem_reverse.mpr hw, hu⟩)

end

/-! ## Matches -/

theorem matchAt_best (p : Pattern) (text : List Char) (i : Nat) :
    Best text ⟨i, [.run p]⟩ []
      (advance i (placeAt text i).before none [⟨[.run p], []⟩] (text.drop i)) := by
  refine advance_best _ rfl (fun earlier t later hts => ?_) (.of_mem (by simp [Thread.config]))
  obtain ⟨rfl, rfl, rfl⟩ : earlier = [] ∧ t = ⟨[.run p], []⟩ ∧ later = [] := by
    simpa [List.append_eq_singleton_iff] using hts.symm
  exact ⟨rfl, [], .nil, by simp, .root⟩

variable {p : Pattern} {text : List Char} {i : Nat}

/-- **Priority.** A match takes the preferred way through the text. -/
theorem matchAt_preferred {m : Match}
    (h : matchAt p i (placeAt text i).before (text.drop i) = some m) :
    ∃ visited, Preferred text [] ⟨i, [.run p]⟩ m.borders visited ⟨m.stop, []⟩ := by
  obtain ⟨⟨stop, borders⟩, hbest, rfl⟩ := Option.map_eq_some_iff.mp h
  have hfound := matchAt_best p text i
  rw [hbest] at hfound
  obtain ⟨visited, hnodup, htrace⟩ := hfound
  obtain ⟨hnot, hnodup⟩ := List.nodup_cons.mp hnodup
  exact ⟨visited, by simpa using Preferred.of_trace htrace hnodup (.refl hnot)⟩

/-- A match that is searched for is a match at some position. -/
theorem matchAt_of_findFrom {m : Match} (rest : List Char) :
    ∀ {i : Nat}, text.drop i = rest → findFrom p i (placeAt text i).before rest = some m →
      ∃ i, matchAt p i (placeAt text i).before (text.drop i) = some m := by
  induction rest with
  | nil => exact fun {i} hrest h => ⟨i, by rw [hrest]; exact h⟩
  | cons c rest ih =>
    intro i hrest h
    rw [findFrom] at h
    split at h
    · rename_i found hfound
      exact ⟨i, by rw [hrest, hfound, h]⟩
    · obtain ⟨hc, hrest⟩ := drop_eq_cons hrest
      exact ih hrest (by rwa [placeAt_before hc])

/-- A pattern matches if there is any way through the text. -/
theorem exists_matchAt {stop : Nat} (h : Reaches text [] ⟨i, [.run p]⟩ ⟨stop, []⟩) :
    ∃ m, matchAt p i (placeAt text i).before (text.drop i) = some m := by
  have hfound := matchAt_best p text i
  rw [matchAt]
  cases hbest : advance i (placeAt text i).before none [⟨[.run p], []⟩] (text.drop i) with
  | some found => exact ⟨_, rfl⟩
  | none =>
    rw [hbest] at hfound
    exact absurd h (hfound stop)

end TemplateBench.Regex
