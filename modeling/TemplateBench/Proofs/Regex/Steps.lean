import TemplateBench.Regex.Matcher

/-!
One step of a thread, as a choice of its first task.

* `unfold_cons`: a step leaves the tasks behind the first one alone, and the borders set so far.
* `Task.Choice`: all that a task may become by a step that reads nothing.
* `unfold_weight`: each of these steps makes a thread lighter.
-/
namespace TemplateBench.Regex

theorem prefer_mem {α : Type} {greedy : Bool} {enter leave a : α}
    (h : a ∈ prefer greedy enter leave) : a = enter ∨ a = leave := by
  cases greedy
  · simpa [prefer, or_comm] using h
  · simpa [prefer] using h

/-! ## The first task -/

/-- The choices of a task that reads nothing: the tasks in its place and the borders it sets. -/
def Task.unfold (place : Place) (task : Task) : Option (List (List Task × List Border)) :=
  (Thread.unfold place ⟨[task], []⟩).map (List.map fun t => (t.tasks, t.borders))

/-- A step of a thread is a step of its first task. -/
theorem unfold_cons (place : Place) (task : Task) (rest : List Task) (borders : List Border) :
    Thread.unfold place ⟨task :: rest, borders⟩ =
      (task.unfold place).map (List.map fun c => ⟨c.1 ++ rest, c.2 ++ borders⟩) := by
  cases task with
  | close g => rfl
  | again p greedy moved => cases moved <;> cases greedy <;> rfl
  | run p =>
    cases p with
    | empty | chars s | group g p | seq p q | alt p q => rfl
    | look l =>
      simp only [Task.unfold, Thread.unfold, Option.map_some]
      split <;> rfl
    | times p least most greedy =>
      rcases least with _ | _ | n <;> rcases most with _ | _ | m <;> cases greedy <;> rfl

theorem unfold_append {place : Place} {task : Task} {rest : List Task} {borders : List Border}
    {ts : List Thread} (h : Thread.unfold place ⟨task :: rest, borders⟩ = some ts) :
    ∀ u ∈ ts, ∃ new, u.tasks = new ++ rest := by
  rw [unfold_cons] at h
  obtain ⟨choices, _, rfl⟩ := Option.map_eq_some_iff.mp h
  intro u hu
  obtain ⟨choice, _, rfl⟩ := List.mem_map.mp hu
  exact ⟨choice.1, rfl⟩

/-! ## Choices -/

/-- What a task may become by a step that reads nothing, and the border that the step sets. -/
inductive Task.Choice (place : Place) : Task → List Task → List Border → Prop
  | close (g : Nat) : Choice place (.close g) [] [.closed g place.position]
  | leave (p : Pattern) (greedy moved : Bool) : Choice place (.again p greedy moved) [] []
  | round (p : Pattern) (greedy : Bool) :
      Choice place (.again p greedy true) [.run p, .again p greedy false] []
  | empty : Choice place (.run .empty) [] []
  | look {l : Look} (h : l.holds place.before place.after = true) :
      Choice place (.run (.look l)) [] []
  | group (g : Nat) (p : Pattern) :
      Choice place (.run (.group g p)) [.run p, .close g] [.opened g place.position]
  | seq (p q : Pattern) : Choice place (.run (.seq p q)) [.run p, .run q] []
  | left (p q : Pattern) : Choice place (.run (.alt p q)) [.run p] []
  | right (p q : Pattern) : Choice place (.run (.alt p q)) [.run q] []
  | skip (p : Pattern) (most : Option Nat) (greedy : Bool) :
      Choice place (.run (.times p 0 most greedy)) [] []
  | enter (p : Pattern) {least : Nat} (greedy : Bool) (h : least ≤ 1) :
      Choice place (.run (.times p least none greedy)) [.run p, .again p greedy false] []
  | least (p : Pattern) (n : Nat) (greedy : Bool) :
      Choice place (.run (.times p (n + 2) none greedy))
        [.run p, .run (.times p (n + 1) none greedy)] []
  | counted (p : Pattern) {n m : Nat} (greedy : Bool) (h : 0 < max n m) :
      Choice place (.run (.times p n (some m) greedy))
        [.run p, .run (.times p (n - 1) (some (m - 1)) greedy)] []

/-- The two choices of a repetition, in either order. -/
theorem forall_prefer {α β : Type} {P : β → Prop} {f : α → β} {greedy : Bool} {enter leave : α}
    (henter : P (f enter)) (hleave : P (f leave)) :
    ∀ c ∈ (prefer greedy enter leave).map f, P c := by
  intro c hc
  obtain ⟨a, ha, rfl⟩ := List.mem_map.mp hc
  rcases prefer_mem ha with rfl | rfl
  · exact henter
  · exact hleave

theorem Task.choice_of_unfold {place : Place} {task : Task}
    {choices : List (List Task × List Border)} (h : task.unfold place = some choices) :
    ∀ c ∈ choices, task.Choice place c.1 c.2 := by
  cases task with
  | close g =>
    cases h
    exact List.forall_mem_singleton.mpr (.close g)
  | again p greedy moved =>
    cases moved with
    | false =>
      cases h
      exact List.forall_mem_singleton.mpr (.leave p greedy false)
    | true =>
      cases h
      exact forall_prefer (.round p greedy) (.leave p greedy true)
  | run p =>
    cases p with
    | chars s => cases h
    | empty =>
      cases h
      exact List.forall_mem_singleton.mpr .empty
    | look l =>
      simp only [Task.unfold, Thread.unfold, Option.map_some] at h
      cases h
      split
      · rename_i hl
        exact List.forall_mem_singleton.mpr (.look hl)
      · exact fun c hc => absurd hc (by simp)
    | group g p =>
      cases h
      exact List.forall_mem_singleton.mpr (.group g p)
    | seq p q =>
      cases h
      exact List.forall_mem_singleton.mpr (.seq p q)
    | alt p q =>
      cases h
      exact List.forall_mem_cons.mpr ⟨.left p q, List.forall_mem_singleton.mpr (.right p q)⟩
    | times p least most greedy =>
      rcases most with _ | m
      · rcases least with _ | _ | n
        · cases h
          exact forall_prefer (.enter p greedy (Nat.zero_le 1)) (.skip p none greedy)
        · cases h
          exact List.forall_mem_singleton.mpr (.enter p greedy (Nat.le_refl 1))
        · cases h
          exact List.forall_mem_singleton.mpr (.least p n greedy)
      · rcases least with _ | n
        · rcases m with _ | m
          · cases h
            exact List.forall_mem_singleton.mpr (.skip p (some 0) greedy)
          · cases h
            exact forall_prefer (.counted p greedy (by simp)) (.skip p (some (m + 1)) greedy)
        · have hchoices : choices = [([.run p, .run (.times p n (some (m - 1)) greedy)], [])] := by
            cases m <;> simpa [Task.unfold, Thread.unfold, eq_comm] using h
          rw [hchoices]
          exact List.forall_mem_singleton.mpr (.counted p greedy (by omega))

/-- Only a character has to be read. -/
theorem Task.exists_chars_of_unfold {place : Place} {task : Task} (h : task.unfold place = none) :
    ∃ s, task = .run (.chars s) := by
  cases task with
  | close g => cases h
  | again p greedy moved => cases moved <;> cases h
  | run p =>
    cases p with
    | chars s => exact ⟨s, rfl⟩
    | empty | look | group | seq | alt => cases h
    | times p least most greedy =>
      rcases least with _ | _ | n <;> rcases most with _ | _ | m <;> cases h

/-! ## Weights -/

@[simp] theorem Thread.weight_nil (borders : List Border) : (Thread.mk [] borders).weight = 0 := rfl

@[simp] theorem Thread.weight_cons (task : Task) (rest : List Task) (borders : List Border) :
    (Thread.mk (task :: rest) borders).weight = task.weight + (Thread.mk rest []).weight := rfl

@[simp] theorem Thread.weight_borders (tasks : List Task) (borders : List Border) :
    (Thread.mk tasks borders).weight = (Thread.mk tasks []).weight := rfl

theorem Thread.weight_append (new rest : List Task) (borders : List Border) :
    (Thread.mk (new ++ rest) borders).weight =
      (Thread.mk new []).weight + (Thread.mk rest []).weight := by
  induction new with
  | nil => simp
  | cons task new ih =>
    rw [List.cons_append, weight_cons, weight_cons, ← weight_borders _ borders, ih]
    omega

/-- A round of a repetition is paid for by the weight of the repetition. -/
theorem weight_round (p : Pattern) {n m : Nat} (h : m < n) :
    p.weight + (m * (p.weight + 2) + 1) < n * (p.weight + 2) + 1 := by
  have hmul := Nat.mul_le_mul_right (p.weight + 2) h
  rw [Nat.succ_mul] at hmul
  omega

theorem Task.Choice.weight {place : Place} {task : Task} {new : List Task} {set : List Border}
    (h : task.Choice place new set) : (Thread.mk new []).weight < task.weight := by
  cases h with
  | close | empty | look | group | seq => simp [Task.weight, Pattern.weight]
  | left | right =>
    simp only [Thread.weight_cons, Thread.weight_nil, Task.weight, Pattern.weight]
    omega
  | leave p greedy moved => cases moved <;> simp [Task.weight]
  | round => simp [Task.weight]
  | skip p most => cases most <;> simp [Task.weight, Pattern.weight]
  | @enter p least greedy h =>
    have hround := weight_round p (Nat.add_pos_right least Nat.one_pos)
    simp only [Thread.weight_cons, Thread.weight_nil, Task.weight, Pattern.weight,
      Bool.false_eq_true, ↓reduceIte]
    omega
  | least p n =>
    have hround := weight_round p (Nat.lt_succ_self (n + 1 + 1))
    simpa [Task.weight, Pattern.weight] using hround
  | @counted p n m greedy h =>
    have hround := weight_round p (m := max (n - 1) (m - 1) + 1) (n := max n m + 1) (by omega)
    simpa [Task.weight, Pattern.weight] using hround

/-- Every step that reads nothing makes a thread lighter. -/
theorem unfold_weight {place : Place} {t : Thread} {ts : List Thread}
    (h : t.unfold place = some ts) : ∀ u ∈ ts, u.weight < t.weight := by
  obtain ⟨tasks, borders⟩ := t
  cases tasks with
  | nil => cases h
  | cons task rest =>
    rw [unfold_cons] at h
    obtain ⟨choices, hchoices, rfl⟩ := Option.map_eq_some_iff.mp h
    intro u hu
    obtain ⟨c, hc, rfl⟩ := List.mem_map.mp hu
    have hlighter := (Task.choice_of_unfold hchoices c hc).weight
    rw [Thread.weight_append, Thread.weight_cons]
    omega

end TemplateBench.Regex
