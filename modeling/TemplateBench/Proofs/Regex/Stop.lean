import TemplateBench.Proofs.Regex.Start

/-!
Matching a pattern in front of the assertion that the text ends there.

* `Thread.Blocked`: a thread that has to pass the assertion before it is done.
* `unfold_blocked`, `feed_blocked`: steps and characters leave it so, as long as text follows.
* `matchAt_beforeStop`: so a match reaches the end of the text.
-/
namespace TemplateBench.Regex

/-! ## Threads in front of the assertion -/

/-- A pattern that ends in the assertion that the text ends there. -/
inductive BeforeStop : Pattern → Prop
  | stop : BeforeStop (.look .stop)
  | seq (p : Pattern) {q : Pattern} : BeforeStop q → BeforeStop (.seq p q)

theorem BeforeStop.seqs (ps : List Pattern) : BeforeStop (Pattern.seqs (ps ++ [.look .stop])) := by
  induction ps with
  | nil => exact .stop
  | cons p rest ih =>
    cases rest with
    | nil => exact .seq p ih
    | cons q rest => exact .seq p ih

/-- The last task of a thread is a pattern that ends in the assertion. -/
def Thread.Blocked (t : Thread) : Prop :=
  ∃ front p, t.tasks = front ++ [.run p] ∧ BeforeStop p

namespace Thread.Blocked

variable {task : Task} {rest : List Task} {borders : List Border}

/-- What a thread does first does not matter while something is left behind it. -/
theorem replace (h : Blocked ⟨rest, borders⟩) (new : List Task) (borders' : List Border) :
    Blocked ⟨new ++ rest, borders'⟩ := by
  obtain ⟨front, p, hrest, hp⟩ := h
  exact ⟨new ++ front, p, by rw [List.append_assoc, ← hrest], hp⟩

/-- The first task is the last one, or the thread is blocked behind it. -/
theorem cons (h : Blocked ⟨task :: rest, borders⟩) :
    (∃ p, task = .run p ∧ rest = [] ∧ BeforeStop p) ∨ Blocked ⟨rest, borders⟩ := by
  obtain ⟨front, p, htasks, hp⟩ := h
  cases front with
  | nil =>
    obtain ⟨rfl, rfl⟩ := List.cons.inj htasks
    exact .inl ⟨p, rfl, rfl, hp⟩
  | cons first front =>
    obtain ⟨rfl, hrest⟩ := List.cons.inj htasks
    exact .inr ⟨front, p, hrest, hp⟩

theorem ne_nil {t : Thread} (h : t.Blocked) : t.tasks ≠ [] := by
  obtain ⟨front, p, htasks, _⟩ := h
  simp [htasks]

end Thread.Blocked

/-! ## Steps -/

/-- In front of a character the assertion holds no thread through. -/
theorem unfold_blocked {place : Place} {c : Char} (hc : place.after = some c) {t : Thread}
    {ts : List Thread} (ht : t.Blocked) (h : t.unfold place = some ts) : ∀ u ∈ ts, u.Blocked := by
  obtain ⟨tasks, borders⟩ := t
  cases tasks with
  | nil => exact absurd rfl ht.ne_nil
  | cons task rest =>
    rcases ht.cons with ⟨p, rfl, rfl, hp⟩ | hrest
    · cases hp with
      | stop =>
        simp only [Thread.unfold, Look.holds, hc, Option.isNone_some] at h
        cases h
        exact fun u hu => absurd hu (by simp)
      | seq p hq =>
        cases h
        intro u hu
        rw [List.mem_singleton.mp hu]
        exact ⟨[.run p], _, rfl, hq⟩
    · intro u hu
      obtain ⟨new, hnew⟩ := unfold_append h u hu
      obtain ⟨tasks, borders'⟩ := u
      cases hnew
      exact hrest.replace new borders'

/-- All threads that wait are blocked, and none is done. -/
structure Settled.Blocked (acc : Settled) : Prop where
  waiting : ∀ t ∈ acc.waiting, t.Blocked
  done : acc.done = none

theorem settleOne_blocked {place : Place} {c : Char} (hc : place.after = some c) (n : Nat) :
    ∀ (t : Thread) (acc : Settled), t.Blocked → acc.Blocked →
      (settleOne place n t acc).Blocked := by
  induction n with
  | zero => exact fun _ _ _ h => h
  | succ n ih =>
    intro t acc ht h
    rw [settleOne]
    split
    · exact h
    · dsimp only
      split
      · rename_i hnil
        exact absurd hnil ht.ne_nil
      · split
        · refine ⟨fun u hu => ?_, h.done⟩
          rcases List.mem_cons.mp hu with rfl | hu
          · exact ht
          · exact h.waiting u hu
        · rename_i ts hunfold
          have hts := unfold_blocked hc ht hunfold
          exact List.foldlRecOn ts _ ⟨h.waiting, h.done⟩ fun acc hacc u hu =>
            ih u acc (hts u hu) hacc

theorem settleAll_blocked {place : Place} {c : Char} (hc : place.after = some c)
    {ts : List Thread} (hts : ∀ t ∈ ts, t.Blocked) : (settleAll place ts).Blocked := by
  have hstart : Settled.Blocked {} := ⟨fun t ht => absurd ht (by simp), rfl⟩
  exact List.foldlRecOn ts _ hstart fun acc hacc t ht =>
    settleOne_blocked hc (t.weight + 1) t acc (hts t ht) hacc

/-! ## Characters -/

theorem feed_blocked {c : Char} {t u : Thread} (ht : t.Blocked) (h : t.feed c = some u) :
    u.Blocked := by
  obtain ⟨tasks, borders⟩ := t
  unfold Thread.feed at h
  dsimp only at h
  split at h
  · rename_i s rest
    split at h
    · cases h
      rcases ht.cons with ⟨p, hp, -, hstop⟩ | ⟨front, p, hrest, hp⟩
      · cases hp
        cases hstop
      · dsimp only at hrest
        rw [hrest, List.map_append]
        exact ⟨_, p, rfl, hp⟩
    · cases h
  · cases h

theorem advance_blocked (text : List Char) :
    ∀ {ts : List Thread} {position stop : Nat} {before : Option Char} {borders : List Border},
      (∀ t ∈ ts, t.Blocked) → advance position before none ts text = some (stop, borders) →
        stop = position + text.length := by
  induction text with
  | nil =>
    intro ts position stop before borders hts h
    cases ts with
    | nil => cases h
    | cons t ts =>
      rw [advance] at h
      · split at h
        · cases h
          rfl
        · cases h
      · intro he
        cases he
  | cons c rest ih =>
    intro ts position stop before borders hts h
    cases ts with
    | nil => cases h
    | cons t ts =>
      have hsettled : (settleAll ⟨position, before, some c⟩ (t :: ts)).Blocked :=
        settleAll_blocked rfl hts
      simp only [advance, hsettled.done] at h
      have hfed : ∀ u ∈ (settleAll ⟨position, before, some c⟩ (t :: ts)).waiting.reverse.filterMap
          (Thread.feed c), u.Blocked := by
        intro u hu
        obtain ⟨w, hw, hwu⟩ := List.mem_filterMap.mp hu
        exact feed_blocked (hsettled.waiting w (List.mem_reverse.mp hw)) hwu
      rw [ih hfed h, List.length_cons]
      omega

/-- **The end of the text.** A match of a pattern that ends in the assertion reaches it. -/
theorem matchAt_beforeStop {p : Pattern} (hp : BeforeStop p) {position : Nat}
    {before : Option Char} {text : List Char} {m : Match}
    (h : matchAt p position before text = some m) : m.stop = position + text.length := by
  obtain ⟨⟨stop, borders⟩, hadvance, rfl⟩ := Option.map_eq_some_iff.mp h
  refine advance_blocked text (fun t ht => ?_) hadvance
  rw [List.mem_singleton.mp ht]
  exact ⟨[], p, rfl, hp⟩

end TemplateBench.Regex
