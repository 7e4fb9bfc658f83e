import TemplateBench.Proofs.Regex.Steps

/-!
Matching a pattern behind the assertion that the text starts there.

* `settleOne_sameBut`: no step makes a thread heavier, so having seen a heavier thread changes
  nothing.
* `findFrom_start`: the assertion lets the pattern match at the start of the text as it would by
  itself, and nowhere else.
-/
namespace TemplateBench.Regex

/-! ## Threads that have been seen -/

/-- Equal but for what heavier threads have been seen. -/
structure SameBut (limit : Nat) (acc acc' : Settled) : Prop where
  waiting : acc.waiting = acc'.waiting
  done : acc.done = acc'.done
  seen : ∀ t : Thread, t.weight ≤ limit →
    acc.seen.any (sameFuture t.tasks) = acc'.seen.any (sameFuture t.tasks)

theorem foldl_sameBut {limit : Nat} {f : Settled → Thread → Settled}
    (hf : ∀ (t : Thread) (acc acc' : Settled), t.weight ≤ limit → SameBut limit acc acc' →
      SameBut limit (f acc t) (f acc' t)) :
    ∀ (ts : List Thread) (acc acc' : Settled), (∀ t ∈ ts, t.weight ≤ limit) →
      SameBut limit acc acc' → SameBut limit (ts.foldl f acc) (ts.foldl f acc') := by
  intro ts
  induction ts with
  | nil => exact fun _ _ _ h => h
  | cons t ts ih =>
    intro acc acc' hts h
    exact ih _ _ (fun u hu => hts u (by simp [hu])) (hf t acc acc' (hts t (by simp)) h)

/-- Having seen a heavier thread changes nothing. -/
theorem settleOne_sameBut {limit : Nat} (place : Place) (n : Nat) :
    ∀ (t : Thread) (acc acc' : Settled), t.weight ≤ limit → SameBut limit acc acc' →
      SameBut limit (settleOne place n t acc) (settleOne place n t acc') := by
  induction n with
  | zero => exact fun _ _ _ _ h => h
  | succ n ih =>
    rintro t ⟨seen, waiting, done⟩ ⟨seen', _, _⟩ ht ⟨rfl, rfl, hseen⟩
    have hsame := hseen t ht
    have hadded : ∀ u : Thread, u.weight ≤ limit →
        (t.tasks :: seen).any (sameFuture u.tasks) = (t.tasks :: seen').any (sameFuture u.tasks) :=
      fun u hu => by simpa using congrArg (sameFuture u.tasks t.tasks || ·) (hseen u hu)
    dsimp only at hsame
    simp only [settleOne, hsame]
    split
    · exact ⟨rfl, rfl, hseen⟩
    · split
      · exact ⟨rfl, rfl, hadded⟩
      · split
        · exact ⟨rfl, rfl, hadded⟩
        · rename_i ts hunfold
          exact foldl_sameBut ih ts _ _
            (fun u hu => Nat.le_trans (Nat.le_of_lt (unfold_weight hunfold u hu)) ht)
            ⟨rfl, rfl, hadded⟩

/-- What a thread becomes that is seen for the first time. -/
theorem settleOne_unfold {place : Place} {t : Thread} {acc : Settled} {ts : List Thread}
    (hdone : acc.done = none) (hseen : acc.seen.any (sameFuture t.tasks) = false)
    (h : t.unfold place = some ts) (n : Nat) :
    settleOne place (n + 1) t acc =
      ts.foldl (fun acc t => settleOne place n t acc) { acc with seen := t.tasks :: acc.seen } := by
  obtain ⟨tasks, borders⟩ := t
  cases tasks with
  | nil => cases h
  | cons task rest => simp [settleOne, hdone, hseen, h]

theorem eq_run_of_sameFuture {ps : List Pattern} :
    ∀ {tasks : List Task}, sameFuture tasks (ps.map .run) = true → tasks = ps.map .run := by
  induction ps with
  | nil =>
    intro tasks h
    cases tasks with
    | nil => rfl
    | cons task rest => cases h
  | cons p ps ih =>
    intro tasks h
    cases tasks with
    | nil => cases h
    | cons task rest =>
      simp only [List.map_cons, sameFuture, Bool.and_eq_true] at h
      rw [ih h.2]
      cases task with
      | run q => rw [eq_of_beq h.1]; rfl
      | close g => cases h.1
      | again q greedy moved => cases h.1

/-! ## Matches -/

theorem matchAt_start_eq {p : Pattern} {position : Nat} {before : Option Char} {rest : List Char}
    {m : Match} (h : matchAt p position before rest = some m) : m.start = position := by
  obtain ⟨found, _, rfl⟩ := Option.map_eq_some_iff.mp h
  rfl

/-! ## The assertion -/

variable (p : Pattern)

/-- A pattern that may match at the start of the text only. -/
def behindStart : Pattern := .seq (.look .start) p

theorem behindStart_weight :
    (Thread.mk [.run (behindStart p)] []).weight + 1 = p.weight + 1 + 1 + 1 := by
  simp only [Thread.weight_cons, Thread.weight_nil, Task.weight, behindStart, Pattern.weight]
  omega

/-- At the start of the text the assertion leaves the pattern alone. -/
theorem settleAll_start (position : Nat) (after : Option Char) :
    SameBut p.weight (settleAll ⟨position, none, after⟩ [⟨[.run (behindStart p)], []⟩])
      (settleAll ⟨position, none, after⟩ [⟨[.run p], []⟩]) := by
  have hsteps : settleAll ⟨position, none, after⟩ [⟨[.run (behindStart p)], []⟩] =
      settleOne ⟨position, none, after⟩ (p.weight + 1) ⟨[.run p], []⟩
        { seen := [[.run (.look .start), .run p], [.run (behindStart p)]] } := by
    simp only [settleAll, List.foldl_cons, List.foldl_nil, behindStart_weight]
    rw [settleOne_unfold rfl rfl rfl, List.foldl_cons, List.foldl_nil,
      settleOne_unfold rfl (by simp [sameFuture]) rfl]
    rfl
  have hplain : settleAll ⟨position, none, after⟩ [⟨[.run p], []⟩] =
      settleOne ⟨position, none, after⟩ (p.weight + 1) ⟨[.run p], []⟩ {} := rfl
  rw [hsteps, hplain]
  refine settleOne_sameBut _ _ _ _ _ (Nat.le_refl _) ⟨rfl, rfl, fun t ht => ?_⟩
  have hheavy : ∀ ps : List Pattern, p.weight < (Thread.mk (ps.map .run) []).weight →
      sameFuture t.tasks (ps.map .run) = false := by
    intro ps hps
    rw [Bool.eq_false_iff]
    intro hsame
    rw [← eq_run_of_sameFuture hsame] at hps
    exact absurd ht (Nat.not_le.mpr hps)
  have hlook := hheavy [.look .start, p] (by
    simp only [List.map_cons, List.map_nil, Thread.weight_cons, Thread.weight_nil, Task.weight,
      Pattern.weight]
    omega)
  have hseq := hheavy [behindStart p] (by
    have hweight := behindStart_weight p
    simp only [List.map_cons, List.map_nil]
    omega)
  simp only [List.map_cons, List.map_nil] at hlook hseq
  simp [hlook, hseq]

/-- Elsewhere the assertion stops every thread. -/
theorem settleAll_inside (position : Nat) (before : Char) (after : Option Char) :
    (settleAll ⟨position, some before, after⟩ [⟨[.run (behindStart p)], []⟩]).waiting = [] ∧
      (settleAll ⟨position, some before, after⟩ [⟨[.run (behindStart p)], []⟩]).done = none := by
  simp only [settleAll, List.foldl_cons, List.foldl_nil, behindStart_weight]
  rw [settleOne_unfold rfl rfl rfl, List.foldl_cons, List.foldl_nil,
    settleOne_unfold rfl (by simp [sameFuture]) rfl]
  exact ⟨rfl, rfl⟩

theorem matchAt_start (text : List Char) :
    matchAt (behindStart p) 0 none text = matchAt p 0 none text := by
  have hsame := fun after => settleAll_start p 0 after
  cases text with
  | nil => simp only [matchAt, advance, (hsame none).done]
  | cons c rest => simp only [matchAt, advance, (hsame (some c)).done, (hsame (some c)).waiting]

theorem matchAt_inside (position : Nat) (before : Char) (text : List Char) :
    matchAt (behindStart p) position (some before) text = none := by
  have hstop := fun after => settleAll_inside p position before after
  cases text with
  | nil => simp [matchAt, advance, (hstop none).2]
  | cons c rest => simp [matchAt, advance, (hstop (some c)).1, (hstop (some c)).2]

theorem findFrom_inside (text : List Char) :
    ∀ position before, findFrom (behindStart p) position (some before) text = none := by
  induction text with
  | nil => exact fun position before => matchAt_inside p position before []
  | cons c rest ih =>
    intro position before
    rw [findFrom, matchAt_inside]
    exact ih (position + 1) c

/-- Behind the assertion a pattern matches at the start of the text as it does by itself, and
nowhere else. -/
theorem findFrom_start (text : List Char) :
    findFrom (behindStart p) 0 none text = matchAt p 0 none text := by
  cases text with
  | nil => exact matchAt_start p []
  | cons c rest =>
    rw [findFrom, matchAt_start, findFrom_inside]
    cases matchAt p 0 none (c :: rest) <;> rfl

end TemplateBench.Regex
