import TemplateBench.Proofs.Regex.Steps

/-!
A text matched by a walk through all that a thread may have left to do.

* `Config.nexts`: the configurations after a step, in order of preference.
* `Reaches`: a way to a configuration around some others.
* `Trace`: the way to a configuration on which every choice that was passed over is known to lead
  nowhere, unless through the configurations `ahead` of it.
* `Preferred`: the same way looked at from its start, with nothing ahead of it.
-/
namespace TemplateBench.Regex

/-! ## Configurations -/

/-- A task that no longer depends on what its round has read. -/
def Task.rested : Task → Task
  | .again p greedy _ => .again p greedy true
  | task => task

@[simp] theorem Task.rested_run (p : Pattern) : (run p).rested = .run p := rfl

@[simp] theorem Task.rested_rested (task : Task) : task.rested.rested = task.rested := by
  cases task <;> rfl

theorem Task.map_rested_rested (tasks : List Task) :
    (tasks.map rested).map rested = tasks.map rested := by
  simp

/-- A character that is read makes every round one that has read. -/
theorem feed_chars (c : Char) (s : CharSet) (rest : List Task) (borders : List Border) :
    Thread.feed c ⟨.run (.chars s) :: rest, borders⟩ =
      if s.mem c then some ⟨rest.map Task.rested, borders⟩ else none := rfl

theorem exists_of_feed {c : Char} {t u : Thread} (h : t.feed c = some u) :
    ∃ s rest, t.tasks = .run (.chars s) :: rest ∧ s.mem c = true ∧
      u = ⟨rest.map Task.rested, t.borders⟩ := by
  unfold Thread.feed at h
  split at h
  · rename_i s rest htasks
    split at h
    · rename_i hs
      cases h
      exact ⟨s, rest, htasks, hs, rfl⟩
    · cases h
  · cases h

/-- What is left to do at a position of a text. -/
structure Config where
  position : Nat
  tasks : List Task

/-- The place in a text behind so many characters. -/
def placeAt (text : List Char) (position : Nat) : Place :=
  ⟨position, if position = 0 then none else text[position - 1]?, text[position]?⟩

theorem placeAt_before {text : List Char} {i : Nat} {c : Char} (hc : text[i]? = some c) :
    (placeAt text (i + 1)).before = some c := by
  simp [placeAt, hc]

/-- A text from some position on, cut at the character there. -/
theorem drop_eq_cons {text rest : List Char} {i : Nat} {c : Char} (h : text.drop i = c :: rest) :
    text[i]? = some c ∧ text.drop (i + 1) = rest := by
  refine ⟨?_, ?_⟩
  · rw [← Nat.add_zero i, ← List.getElem?_drop, h]
    rfl
  · rw [← List.drop_drop, h]
    rfl

def Task.reads : Task → Option Char → Bool
  | .run (.chars s), some c => s.mem c
  | _, _ => false

/-- The configurations after a step, in order of preference, with the borders that it sets. -/
def Config.nexts (text : List Char) : Config → List (Config × List Border)
  | ⟨_, []⟩ => []
  | ⟨position, task :: rest⟩ =>
    match task.unfold (placeAt text position) with
    | some choices => choices.map fun c => (⟨position, c.1.map Task.rested ++ rest⟩, c.2)
    | none => if task.reads text[position]? then [(⟨position + 1, rest⟩, [])] else []

@[simp] theorem Config.nexts_nil (text : List Char) (position : Nat) :
    (Config.mk position []).nexts text = [] := rfl

theorem Config.nexts_cases {text : List Char} {i : Nat} {task : Task} {rest : List Task}
    {c : Config × List Border} (h : c ∈ (Config.mk i (task :: rest)).nexts text) :
    (∃ new, task.Choice (placeAt text i) new c.2 ∧ c.1 = ⟨i, new.map Task.rested ++ rest⟩) ∨
      ∃ s char, task = .run (.chars s) ∧ text[i]? = some char ∧ s.mem char = true ∧
        c = (⟨i + 1, rest⟩, []) := by
  simp only [nexts] at h
  split at h
  · rename_i choices hchoices
    obtain ⟨choice, hchoice, rfl⟩ := List.mem_map.mp h
    exact .inl ⟨choice.1, Task.choice_of_unfold hchoices choice hchoice, rfl⟩
  · rename_i hreads
    obtain ⟨s, rfl⟩ := Task.exists_chars_of_unfold hreads
    cases hc : text[i]? with
    | none => simp [hc, Task.reads] at h
    | some char =>
      simp only [hc, Task.reads] at h
      split at h
      · rename_i hmem
        exact .inr ⟨s, char, rfl, rfl, hmem, List.mem_singleton.mp h⟩
      · cases h

/-- The text is read from left to right, up to its end. -/
theorem Config.nexts_position {text : List Char} {u : Config} {c : Config × List Border}
    (h : c ∈ u.nexts text) :
    u.position ≤ c.1.position ∧ (u.position ≤ text.length → c.1.position ≤ text.length) := by
  obtain ⟨i, _ | ⟨task, rest⟩⟩ := u
  · cases h
  · rcases nexts_cases h with ⟨new, _, hc⟩ | ⟨s, char, _, hchar, _, rfl⟩
    · simp [hc]
    · exact ⟨Nat.le_succ i, fun _ => (List.getElem?_eq_some_iff.mp hchar).1⟩

/-! ## Ways -/

/-- A way from one configuration to another around those that are barred. -/
inductive Reaches (text : List Char) (barred : List Config) : Config → Config → Prop
  | refl {u : Config} (h : u ∉ barred) : Reaches text barred u u
  | step {u v : Config} {next : Config × List Border} (h : u ∉ barred) (hn : next ∈ u.nexts text)
      (hr : Reaches text barred next.1 v) : Reaches text barred u v

/-- No way ends there with nothing left to do. -/
def Dead (text : List Char) (barred : List Config) (u : Config) : Prop :=
  ∀ stop, ¬ Reaches text barred u ⟨stop, []⟩

variable {text : List Char} {barred barred' visited visited' ahead ahead' : List Config}
  {u v root : Config} {borders : List Border}

theorem Reaches.not_mem (h : Reaches text barred u v) : u ∉ barred := by
  cases h <;> assumption

theorem Reaches.anti (hsub : ∀ c ∈ barred', c ∈ barred) (h : Reaches text barred u v) :
    Reaches text barred' u v := by
  induction h with
  | refl h => exact .refl fun hm => h (hsub _ hm)
  | step h hn _ ih => exact .step (fun hm => h (hsub _ hm)) hn ih

theorem Reaches.position (h : Reaches text barred u v) :
    u.position ≤ v.position ∧ (u.position ≤ text.length → v.position ≤ text.length) := by
  induction h with
  | refl _ => exact ⟨Nat.le_refl _, id⟩
  | step _ hn _ ih =>
    obtain ⟨hle, hend⟩ := Config.nexts_position hn
    exact ⟨Nat.le_trans hle ih.1, fun hu => ih.2 (hend hu)⟩

theorem Dead.of_mem (h : u ∈ barred) : Dead text barred u := fun _ hr => hr.not_mem h

/-- A way that needs none of `ahead` avoids them. -/
theorem Dead.replace (hahead : ∀ c ∈ ahead, Dead text ahead' c)
    (h : Dead text (visited ++ ahead) u) : Dead text (visited ++ ahead') u := by
  intro stop hr
  refine h stop ?_
  generalize hv : (⟨stop, []⟩ : Config) = v at hr
  have hout : ∀ {w}, Reaches text (visited ++ ahead') w v → w ∉ visited ++ ahead := by
    intro w hw hm
    rcases List.mem_append.mp hm with hm | hm
    · exact hw.not_mem (List.mem_append_left _ hm)
    · exact hahead w hm stop (hv ▸ hw.anti fun c hc => List.mem_append_right _ hc)
  clear h
  induction hr with
  | refl h => exact .refl (hout (.refl h))
  | step h hn hr ih => exact .step (hout (.step h hn hr)) hn (ih hv hout)

/-! ## Traces -/

/-- The way from a root, the configurations on it last first, with the borders that it sets. What
was preferred to a step leads nowhere but back or through the configurations `ahead`. -/
inductive Trace (text : List Char) (root : Config) (ahead : List Config) :
    List Config → List Border → Config → Prop
  | root : Trace text root ahead [] [] root
  | step {visited : List Config} {borders : List Border} {u : Config}
      {before after : List (Config × List Border)} {next : Config × List Border}
      (h : Trace text root ahead visited borders u)
      (hn : u.nexts text = before ++ next :: after)
      (hbefore : ∀ c ∈ before, Dead text ((u :: visited) ++ ahead) c.1) :
      Trace text root ahead (u :: visited) (next.2 ++ borders) next.1

/-- What is ahead may be replaced by all that it leads through. -/
theorem Trace.replace (hahead : ∀ c ∈ ahead, Dead text ahead' c)
    (h : Trace text root ahead visited borders u) : Trace text root ahead' visited borders u := by
  induction h with
  | root => exact .root
  | step _ hn hbefore ih => exact .step ih hn fun c hc => (hbefore c hc).replace hahead

/-- The way from a configuration that takes the first choice which leads anywhere else than back;
`visited` are the configurations before it. -/
inductive Preferred (text : List Char) :
    List Config → Config → List Border → List Config → Config → Prop
  | refl {visited : List Config} {u : Config} (h : u ∉ visited) :
      Preferred text visited u [] visited u
  | step {visited visited' : List Config} {borders : List Border} {u v : Config}
      {before after : List (Config × List Border)} {next : Config × List Border}
      (h : u ∉ visited) (hn : u.nexts text = before ++ next :: after)
      (hbefore : ∀ c ∈ before, Dead text (u :: visited) c.1)
      (hp : Preferred text (u :: visited) next.1 borders visited' v) :
      Preferred text visited u (borders ++ next.2) visited' v

theorem Preferred.reaches (h : Preferred text visited u borders visited' v) :
    Reaches text visited u v := by
  induction h with
  | refl h => exact .refl h
  | step h hn _ _ ih =>
    exact .step h (hn ▸ by simp) (ih.anti fun c hc => List.mem_cons_of_mem _ hc)

theorem Preferred.of_trace {borders' : List Border}
    (h : Trace text root [] visited borders u) (hnodup : visited.Nodup)
    (hp : Preferred text visited u borders' visited' v) :
    Preferred text [] root (borders' ++ borders) visited' v := by
  induction h generalizing borders' with
  | root => simpa using hp
  | step h hn hbefore ih =>
    obtain ⟨hnot, hnodup⟩ := List.nodup_cons.mp hnodup
    rw [← List.append_assoc]
    exact ih hnodup (.step hnot hn (fun c hc => by simpa using hbefore c hc) hp)

end TemplateBench.Regex
