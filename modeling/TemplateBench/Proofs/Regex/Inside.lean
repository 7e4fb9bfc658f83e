import TemplateBench.Proofs.Regex.Grouped
import TemplateBench.Proofs.Regex.Walks

/-!
A pattern without assertions inside of a larger one.

* `Config.embed`: a configuration further on in a text, with other tasks behind its own.
* `nexts_embed`, `nexts_take`: its steps are the same there, up to where its own text ends.
* `Inside`: the part of a larger way that goes through what is embedded.
* `Inside.borders_eq`: this part sets the borders that are set in a text of its own, if both read
  all of that text.
-/
namespace TemplateBench.Regex

/-! ## What patterns are made of -/

namespace Pattern

/-- A pattern without assertions: what it matches does not depend on what is around it. -/
def plain : Pattern → Bool
  | .empty => true
  | .chars _ => true
  | .look _ => false
  | .group _ p => p.plain
  | .seq p q => p.plain && q.plain
  | .alt p q => p.plain && q.plain
  | .times p _ _ _ => p.plain

/-- The numbers of the groups in a pattern. -/
def numbers : Pattern → List Nat
  | .empty => []
  | .chars _ => []
  | .look _ => []
  | .group g p => g :: p.numbers
  | .seq p q => p.numbers ++ q.numbers
  | .alt p q => p.numbers ++ q.numbers
  | .times p _ _ _ => p.numbers

end Pattern

namespace Task

def plain : Task → Bool
  | .run p => p.plain
  | .close _ => true
  | .again p _ _ => p.plain

/-- The groups that a task may open. -/
def opens : Task → List Nat
  | .run p => p.numbers
  | .close _ => []
  | .again p _ _ => p.numbers

/-- The groups that a task may open or close. -/
def numbers : Task → List Nat
  | .run p => p.numbers
  | .close g => [g]
  | .again p _ _ => p.numbers

theorem opens_subset (task : Task) : ∀ g ∈ task.opens, g ∈ task.numbers := by
  cases task <;> simp [opens, numbers]

@[simp] theorem plain_rested (task : Task) : task.rested.plain = task.plain := by cases task <;> rfl

@[simp] theorem opens_rested (task : Task) : task.rested.opens = task.opens := by cases task <;> rfl

@[simp] theorem numbers_rested (task : Task) : task.rested.numbers = task.numbers := by
  cases task <;> rfl

end Task

namespace Border

def group : Border → Nat
  | .opened g _ => g
  | .closed g _ => g

def position : Border → Nat
  | .opened _ i => i
  | .closed _ i => i

end Border

section

variable {place : Place} {task : Task} {new : List Task} {set : List Border}

theorem Task.Choice.plain (h : task.Choice place new set) (ht : task.plain = true) :
    ∀ t ∈ new, t.plain = true := by
  cases h <;> simp_all [Task.plain, Pattern.plain]

theorem Task.Choice.opens (h : task.Choice place new set) :
    ∀ t ∈ new, ∀ g ∈ t.opens, g ∈ task.opens := by
  cases h <;> simp_all [Task.opens, Pattern.numbers]

theorem Task.Choice.numbers (h : task.Choice place new set) :
    ∀ t ∈ new, ∀ g ∈ t.numbers, g ∈ task.numbers := by
  cases h <;> simp_all [Task.numbers, Pattern.numbers]

theorem Task.Choice.borders (h : task.Choice place new set) :
    ∀ b ∈ set, b.group ∈ task.numbers ∧ b.position = place.position := by
  cases h <;> simp [Task.numbers, Pattern.numbers, Border.group, Border.position]

theorem Task.Choice.opened {g i : Nat} (h : task.Choice place new set) (hb : .opened g i ∈ set) :
    g ∈ task.opens := by
  cases h <;> simp_all [Task.opens, Pattern.numbers]

end

/-! ## Renumbering -/

def Task.shift (k : Nat) : Task → Task
  | .run p => .run (p.shift k)
  | .close g => .close (g + k)
  | .again p greedy moved => .again (p.shift k) greedy moved

/-- A border further on in a text and of a group that is numbered after others. -/
def Border.shift (k s : Nat) : Border → Border
  | .opened g i => .opened (g + k) (i + s)
  | .closed g i => .closed (g + k) (i + s)

theorem Task.rested_shift (k : Nat) (task : Task) :
    (task.shift k).rested = task.rested.shift k := by
  cases task <;> rfl

theorem Task.unfold_shift {place place' : Place} {k s : Nat}
    (hplace : place'.position = place.position + s) {task : Task} (ht : task.plain = true) :
    (task.shift k).unfold place' =
      (task.unfold place).map
        (List.map fun c => (c.1.map (shift k), c.2.map (Border.shift k s))) := by
  cases task with
  | close g => simp [Task.unfold, Thread.unfold, shift, Border.shift, hplace]
  | again p greedy moved => cases moved <;> cases greedy <;> rfl
  | run p =>
    cases p with
    | empty | chars | seq | alt => rfl
    | group g p => simp [Task.unfold, Thread.unfold, shift, Pattern.shift, Border.shift, hplace]
    | look l => cases ht
    | times p least most greedy =>
      rcases least with _ | _ | n <;> rcases most with _ | _ | m <;> cases greedy <;> rfl

theorem Task.reads_shift (k : Nat) (task : Task) (c : Option Char) :
    (task.shift k).reads c = task.reads c := by
  cases task with
  | run p => cases p <;> cases c <;> rfl
  | close g => rfl
  | again p greedy moved => rfl

theorem Pattern.shift_injective (k : Nat) : Function.Injective (shift k) := by
  intro p
  induction p with
  | empty | chars | look =>
    intro q h
    cases q <;> simp_all [shift]
  | group g p ih =>
    intro q h
    cases q <;> simp only [shift, reduceCtorEq, group.injEq, Nat.add_right_cancel_iff] at h
    rw [h.1, ih h.2]
  | seq p q ihp ihq | alt p q ihp ihq =>
    intro r h
    cases r <;> simp only [shift, reduceCtorEq, seq.injEq, alt.injEq] at h
    rw [ihp h.1, ihq h.2]
  | times p least most greedy ih =>
    intro q h
    cases q <;> simp only [shift, reduceCtorEq, times.injEq] at h
    rw [ih h.1, h.2.1, h.2.2.1, h.2.2.2]

theorem Task.shift_injective (k : Nat) : Function.Injective (shift k) := by
  intro s t h
  cases s <;> cases t <;>
    simp only [shift, reduceCtorEq, run.injEq, close.injEq, again.injEq, Nat.add_right_cancel_iff]
      at h
  · rw [Pattern.shift_injective k h]
  · rw [h]
  · rw [Pattern.shift_injective k h.1, h.2.1, h.2.2]

@[simp] theorem Task.shift_zero : shift 0 = id := by
  funext task
  cases task <;> simp [shift]

@[simp] theorem Border.shift_zero : shift 0 0 = id := by
  funext b
  cases b <;> rfl

/-- Without assertions only the position of a place matters. -/
theorem Task.unfold_plain {place place' : Place} (hplace : place'.position = place.position)
    {task : Task} (ht : task.plain = true) : task.unfold place' = task.unfold place := by
  have hshift := Task.unfold_shift (k := 0) (s := 0) hplace ht
  simpa using hshift

/-! ## Steps -/

section

variable {text : List Char} {u : Config}

/-- What choices keep is kept by a step. -/
theorem Config.forall_nexts {P : Task → Prop}
    (hP : ∀ {place task new set}, Task.Choice place task new set → P task →
      ∀ t ∈ new, P t.rested) (hu : ∀ t ∈ u.tasks, P t) :
    ∀ c ∈ u.nexts text, ∀ t ∈ c.1.tasks, P t := by
  intro c hc t ht
  obtain ⟨i, _ | ⟨task, rest⟩⟩ := u
  · cases hc
  · obtain ⟨htask, hrest⟩ := List.forall_mem_cons.mp hu
    rcases nexts_cases hc with ⟨new, hchoice, he⟩ | ⟨s, char, _, _, _, rfl⟩
    · rw [he] at ht
      rcases List.mem_append.mp ht with ht | ht
      · obtain ⟨t, hm, rfl⟩ := List.mem_map.mp ht
        exact hP hchoice htask t hm
      · exact hrest t ht
    · exact hrest t ht

theorem Config.nexts_plain (hu : ∀ t ∈ u.tasks, t.plain = true) :
    ∀ c ∈ u.nexts text, ∀ t ∈ c.1.tasks, t.plain = true :=
  forall_nexts (fun hchoice ht t hm => by simpa using hchoice.plain ht t hm) hu

theorem Config.nexts_borders {c : Config × List Border} (hc : c ∈ u.nexts text) :
    ∀ b ∈ c.2, b.position = u.position ∧ ∃ t ∈ u.tasks, b.group ∈ t.numbers := by
  intro b hb
  obtain ⟨i, _ | ⟨task, rest⟩⟩ := u
  · cases hc
  · rcases nexts_cases hc with ⟨new, hchoice, _⟩ | ⟨s, char, _, _, _, rfl⟩
    · obtain ⟨hgroup, hposition⟩ := hchoice.borders b hb
      exact ⟨hposition, task, List.mem_cons_self, hgroup⟩
    · cases hb

theorem Config.nexts_opened {c : Config × List Border} (hc : c ∈ u.nexts text) {g i : Nat}
    (hb : .opened g i ∈ c.2) : ∃ t ∈ u.tasks, g ∈ t.opens := by
  obtain ⟨j, _ | ⟨task, rest⟩⟩ := u
  · cases hc
  · rcases nexts_cases hc with ⟨new, hchoice, _⟩ | ⟨s, char, _, _, _, rfl⟩
    · exact ⟨task, List.mem_cons_self, hchoice.opened hb⟩
    · cases hb

theorem Preferred.border_le {visited visited' : List Config} {v : Config} {borders : List Border}
    (h : Preferred text visited u borders visited' v) : ∀ b ∈ borders, b.position ≤ v.position := by
  induction h with
  | refl _ => simp
  | @step visited visited' borders u v before after next _ hn _ hp ih =>
    have hnext : next ∈ u.nexts text := by simp [hn]
    refine List.forall_mem_append.mpr ⟨ih, fun b hb => ?_⟩
    rw [(Config.nexts_borders hnext b hb).1]
    exact Nat.le_trans (Config.nexts_position hnext).1 hp.reaches.position.1

/-- Up to where a text is cut off nothing changes without assertions. -/
theorem Config.nexts_take (text : List Char) (n : Nat) (hu : ∀ t ∈ u.tasks, t.plain = true) :
    u.nexts (text.take n) = u.nexts text ∨
      u.nexts (text.take n) = [] ∧ ∀ c ∈ u.nexts text, n < c.1.position := by
  obtain ⟨i, _ | ⟨task, rest⟩⟩ := u
  · exact .inl rfl
  · have hunfold : task.unfold (placeAt (text.take n) i) = task.unfold (placeAt text i) := by
      exact Task.unfold_plain (by rfl) (List.forall_mem_cons.mp hu).1
    simp only [nexts, hunfold]
    cases task.unfold (placeAt text i) with
    | some choices => exact .inl rfl
    | none =>
      by_cases hi : i < n
      · rw [List.getElem?_take_of_lt hi]
        exact .inl rfl
      · have hend : (text.take n)[i]? = none :=
          List.getElem?_eq_none (Nat.le_trans (List.length_take_le n text) (Nat.le_of_not_lt hi))
        have hnone : task.reads none = false := by
          cases task with
          | run p => cases p <;> rfl
          | close g => rfl
          | again p greedy moved => rfl
        right
        simp only [hend, hnone, Bool.false_eq_true, ↓reduceIte, true_and]
        intro c hc
        split at hc
        · rw [List.mem_singleton.mp hc]
          exact Nat.lt_succ_of_le (Nat.le_of_not_lt hi)
        · cases hc

end

/-! ## Frames -/

/-- A configuration as it stands in a larger text: further on, and with other tasks behind. -/
def Config.embed (k s : Nat) (behind : List Task) (u : Config) : Config :=
  ⟨u.position + s, u.tasks.map (Task.shift k) ++ behind⟩

theorem Config.embed_injective (k s : Nat) (behind : List Task) :
    Function.Injective (embed k s behind) := by
  rintro ⟨i, tasks⟩ ⟨j, tasks'⟩ h
  simp only [embed, mk.injEq, Nat.add_right_cancel_iff, List.append_left_inj] at h
  rw [h.1, (List.map_inj_right fun _ _ he => Task.shift_injective k he).mp h.2]

theorem Config.nexts_embed (k s : Nat) (behind : List Task) (text : List Char) {u : Config}
    (htasks : u.tasks ≠ []) (hu : ∀ t ∈ u.tasks, t.plain = true) :
    (u.embed k s behind).nexts text =
      (u.nexts (text.drop s)).map fun c => (c.1.embed k s behind, c.2.map (Border.shift k s)) := by
  obtain ⟨i, _ | ⟨task, rest⟩⟩ := u
  · exact absurd rfl htasks
  · have htask := (List.forall_mem_cons.mp hu).1
    have hplace : (placeAt text (i + s)).position = (placeAt (text.drop s) i).position + s := rfl
    have hchar : text[i + s]? = (text.drop s)[i]? := by rw [List.getElem?_drop, Nat.add_comm]
    simp only [embed, List.map_cons, List.cons_append, nexts, Task.unfold_shift hplace htask,
      Task.reads_shift, hchar]
    cases task.unfold (placeAt (text.drop s) i) with
    | some choices => simp [Task.rested_shift]
    | none =>
      dsimp only [Option.map_none]
      split
      · simp
        omega
      · rfl

/-- A step inside is one of the larger text, also where the text inside ends before it. -/
theorem Config.mem_nexts_embed (k s : Nat) (behind : List Task) {text : List Char} {n : Nat}
    {u : Config} (hu : ∀ t ∈ u.tasks, t.plain = true) {c : Config × List Border}
    (hc : c ∈ u.nexts ((text.drop s).take n)) :
    (c.1.embed k s behind, c.2.map (Border.shift k s)) ∈ (u.embed k s behind).nexts text := by
  have htasks : u.tasks ≠ [] := by
    obtain ⟨i, _ | ⟨task, rest⟩⟩ := u
    · cases hc
    · simp
  rw [nexts_embed k s behind text htasks hu]
  rcases nexts_take (text.drop s) n hu with he | ⟨he, _⟩
  · exact List.mem_map.mpr ⟨c, he ▸ hc, rfl⟩
  · rw [he] at hc
    cases hc

/-! ## The way through the frame -/

section

variable {text : List Char} {k s : Nat} {behind : List Task}

/-- The part of a preferred way that goes through what is embedded, up to where it is left. -/
inductive Inside (text : List Char) (k s : Nat) (behind : List Task) :
    List Config → Config → List Border → List Config → Nat → Prop
  | leave {visited : List Config} {i : Nat} (h : (Config.mk i []).embed k s behind ∉ visited) :
      Inside text k s behind visited ⟨i, []⟩ [] visited i
  | step {visited visited' : List Config} {u : Config} {borders : List Border} {i : Nat}
      {before after : List (Config × List Border)} {next : Config × List Border}
      (h : u.embed k s behind ∉ visited) (hn : u.nexts (text.drop s) = before ++ next :: after)
      (hbefore : ∀ c ∈ before,
        Dead text (u.embed k s behind :: visited) (c.1.embed k s behind))
      (hi : Inside text k s behind (u.embed k s behind :: visited) next.1 borders visited' i) :
      Inside text k s behind visited u (borders ++ next.2) visited' i

/-- A preferred way that enters the frame goes through it and leaves it. -/
theorem Preferred.inside {visited visited' : List Config} {x v : Config} {borders : List Border}
    (h : Preferred text visited x borders visited' v) (hv : v.tasks = []) :
    ∀ {u : Config}, x = u.embed k s behind → (∀ t ∈ u.tasks, t.plain = true) →
    ∃ inner visited'' i outer, Inside text k s behind visited u inner visited'' i ∧
      Preferred text visited'' ((Config.mk i []).embed k s behind) outer visited' v ∧
      borders = outer ++ inner.map (Border.shift k s) := by
  induction h with
  | @refl visited x h =>
    rintro ⟨i, tasks⟩ rfl _
    obtain ⟨htasks, _⟩ := List.append_eq_nil_iff.mp hv
    obtain rfl := List.map_eq_nil_iff.mp htasks
    exact ⟨[], visited, i, [], .leave h, .refl h, rfl⟩
  | @step visited visited' borders x v before after next h hn hbefore hp ih =>
    rintro u rfl hu
    by_cases htasks : u.tasks = []
    · obtain ⟨i, tasks⟩ := u
      obtain rfl : tasks = [] := htasks
      exact ⟨[], visited, i, _, .leave h, .step h hn hbefore hp, by simp⟩
    · rw [Config.nexts_embed k s behind text htasks hu] at hn
      obtain ⟨front, back, hfront, rfl, hback⟩ := List.map_eq_append_iff.mp hn
      obtain ⟨c, rest, rfl, rfl, rfl⟩ := List.map_eq_cons_iff.mp hback
      have hc : c ∈ u.nexts (text.drop s) := by simp [hfront]
      obtain ⟨inner, visited'', i, outer, hinside, houter, rfl⟩ :=
        ih hv rfl (Config.nexts_plain hu c hc)
      refine ⟨inner ++ c.2, visited'', i, outer, .step h hfront ?_ hinside, houter, by simp⟩
      exact fun d hd => hbefore _ (List.mem_map_of_mem hd)

variable {visited visited' : List Config} {u : Config} {borders : List Border} {i : Nat}

theorem Inside.subset (h : Inside text k s behind visited u borders visited' i) :
    ∀ c ∈ visited, c ∈ visited' := by
  induction h with
  | leave _ => exact fun _ h => h
  | step _ _ _ _ ih => exact fun c hc => ih c (List.mem_cons_of_mem _ hc)

/-- The same way in the embedded text alone. -/
theorem Inside.reaches (h : Inside text k s behind visited u borders visited' i)
    {own : List Config} (hown : ∀ x ∈ own, x.embed k s behind ∈ visited) :
    Reaches (text.drop s) own u ⟨i, []⟩ := by
  induction h generalizing own with
  | leave h => exact .refl fun hm => h (hown _ hm)
  | step h hn _ _ ih =>
    refine .step (fun hm => h (hown _ hm)) (hn ▸ by simp)
      (ih fun x hx => List.mem_cons_of_mem _ (hown x hx))

/-- A way that ends in front of where the text is cut off. -/
theorem Reaches.take {n : Nat} {own : List Config} {v : Config} (h : Reaches text own u v)
    (hu : ∀ t ∈ u.tasks, t.plain = true) (hv : v.position ≤ n) : Reaches (text.take n) own u v := by
  induction h with
  | refl h => exact .refl h
  | @step u v next h hn hr ih =>
    refine .step h ?_ (ih (Config.nexts_plain hu next hn) hv)
    rcases Config.nexts_take text n hu with he | ⟨_, hlater⟩
    · rwa [he]
    · exact absurd (Nat.le_trans hr.position.1 hv) (Nat.not_le.mpr (hlater next hn))

/-- Without assertions, and behind the opening of a group. -/
def Config.Within (g : Nat) (u : Config) : Prop := ∀ t ∈ u.tasks, t.plain = true ∧ g ∉ t.opens

/-- A configuration that has the group still to open. -/
def Config.Opens (g : Nat) (u : Config) : Prop := ∃ t ∈ u.tasks, g ∈ t.opens

theorem Config.Within.next {g : Nat} (hu : u.Within g) :
    ∀ c ∈ u.nexts text, c.1.Within g := by
  refine Config.forall_nexts (fun {place task new set} hchoice ht t hm => ?_) hu
  rw [Task.plain_rested, Task.opens_rested]
  exact ⟨hchoice.plain ht.1 t hm, fun hg => ht.2 (hchoice.opens t hm g hg)⟩

theorem Pattern.numbers_shift (k : Nat) (p : Pattern) :
    (p.shift k).numbers = p.numbers.map (· + k) := by
  induction p with
  | empty | chars | look => rfl
  | group g p ih => simp [shift, numbers, ih]
  | seq p q ihp ihq | alt p q ihp ihq => simp [shift, numbers, ihp, ihq]
  | times p least most greedy ih => exact ih

theorem Task.opens_shift (k : Nat) (task : Task) :
    (task.shift k).opens = task.opens.map (· + k) := by
  cases task with
  | run p => exact p.numbers_shift k
  | close g => rfl
  | again p greedy moved => exact p.numbers_shift k

variable {g n : Nat}

theorem Config.Within.not_opens {u : Config} (hu : u.Within g)
    (hbehind : ∀ t ∈ behind, g + k ∉ t.opens) : ¬ (u.embed k s behind).Opens (g + k) := by
  rintro ⟨t, ht, hopens⟩
  rcases List.mem_append.mp ht with ht | ht
  · obtain ⟨own, hown, rfl⟩ := List.mem_map.mp ht
    rw [Task.opens_shift, List.mem_map] at hopens
    obtain ⟨g', hg', he⟩ := hopens
    exact (hu own hown).2 (Nat.add_right_cancel he ▸ hg')
  · exact hbehind t ht hopens

/-- What has been visited in the larger text: what has been visited inside, and what comes before
the group is opened. -/
structure Framed (k s : Nat) (behind : List Task) (g : Nat) (own visited : List Config) : Prop where
  embed : ∀ x ∈ own, x.embed k s behind ∈ visited
  outside : ∀ z ∈ visited, (∃ x ∈ own, z = x.embed k s behind) ∨ z.Opens (g + k)

theorem Framed.cons {own : List Config} (h : Framed k s behind g own visited) (u : Config) :
    Framed k s behind g (u :: own) (u.embed k s behind :: visited) := by
  refine ⟨fun x hx => ?_, fun z hz => ?_⟩
  · rcases List.mem_cons.mp hx with rfl | hx
    · exact List.mem_cons_self
    · exact List.mem_cons_of_mem _ (h.embed x hx)
  · rcases List.mem_cons.mp hz with rfl | hz
    · exact .inl ⟨u, List.mem_cons_self, rfl⟩
    · exact (h.outside z hz).imp_left fun ⟨x, hx, he⟩ => ⟨x, List.mem_cons_of_mem _ hx, he⟩

/-- A way inside goes on as the larger one does. -/
theorem Reaches.embed {own : List Config} (hbehind : ∀ t ∈ behind, g + k ∉ t.opens)
    (hown : Framed k s behind g own visited) {v stop : Config}
    (h : Reaches ((text.drop s).take n) own u v)
    (hstop : Reaches text visited (v.embed k s behind) stop) (hu : u.Within g) :
    Reaches text visited (u.embed k s behind) stop := by
  induction h with
  | refl _ => exact hstop
  | step h hn _ ih =>
    refine .step (fun hm => ?_)
      (Config.mem_nexts_embed k s behind (fun t ht => (hu t ht).1) hn) (ih hstop (hu.next _ hn))
    rcases hown.outside _ hm with ⟨x, hx, he⟩ | hopens
    · exact h (Config.embed_injective k s behind he ▸ hx)
    · exact hu.not_opens hbehind hopens

/-- Two ways to cut a list at an element. -/
theorem cut_cases {α : Type} {before after before' after' : List α} {x y : α}
    (h : before ++ x :: after = before' ++ y :: after') :
    (before = before' ∧ x = y) ∨ x ∈ before' ∨ y ∈ before := by
  rcases List.append_eq_append_iff.mp h with ⟨more, rfl, he⟩ | ⟨more, rfl, he⟩
  · cases more with
    | nil => exact .inl ⟨by simp, (List.cons.inj he).1⟩
    | cons z more => exact .inr (.inl (by simp [(List.cons.inj he).1]))
  · cases more with
    | nil => exact .inl ⟨by simp, (List.cons.inj he).1.symm⟩
    | cons z more => exact .inr (.inr (by simp [(List.cons.inj he).1]))

/-- **Agreement.** The preferred way through a text of its own and the part of a larger preferred
way set the same borders, if both read all of that text. -/
theorem Inside.borders_eq {own own' : List Config} {borders' : List Border} {v stop : Config}
    (hbehind : ∀ t ∈ behind, g + k ∉ t.opens)
    (hp : Preferred ((text.drop s).take n) own u borders' own' v) (hv : v = ⟨n, []⟩)
    (hi : Inside text k s behind visited u borders visited' n)
    (hstop : Reaches text visited' (v.embed k s behind) stop) (hdone : stop.tasks = [])
    (hown : Framed k s behind g own visited) (hu : u.Within g) : borders = borders' := by
  induction hp generalizing visited borders with
  | refl _ =>
    subst hv
    cases hi with
    | leave _ => rfl
    | step _ hn _ _ => simp at hn
  | @step own own' borders' u v before after next h hn hbefore hp ih =>
    cases hi with
    | leave _ => simp at hn
    | @step _ _ _ borders _ front back c hnot hc hfront hi =>
      have hplain := fun t ht => (hu t ht).1
      have hsame : before ++ next :: after = front ++ c :: back := by
        rcases Config.nexts_take (text.drop s) n hplain with he | ⟨he, _⟩
        · rw [← hn, he, hc]
        · simp [he] at hn
      have hstop' : Reaches text (u.embed k s behind :: visited) (v.embed k s behind) stop :=
        hstop.anti hi.subset
      have hnext : next ∈ u.nexts ((text.drop s).take n) := by simp [hn]
      have hc' : c ∈ u.nexts (text.drop s) := by simp [hc]
      obtain ⟨last, tasks⟩ := stop
      obtain rfl : tasks = [] := hdone
      rcases cut_cases hsame with ⟨_, rfl⟩ | hpassed | hpassed
      · rw [ih hv hi hstop (hown.cons u) (hu.next next hnext)]
      · -- the larger way has passed over what the text of its own prefers
        have hreaches := hp.reaches.embed hbehind (hown.cons u) hstop' (hu.next next hnext)
        exact absurd hreaches (hfront next hpassed last)
      · -- the text of its own has passed over what the larger way takes
        have hreaches := hi.reaches (hown.cons u).embed
        have hwithin := fun t ht => (hu.next c hc' t ht).1
        exact absurd (hreaches.take hwithin (Nat.le_refl n)) (hbefore c hpassed n)

end

end TemplateBench.Regex
