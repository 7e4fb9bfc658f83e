import TemplateBench.Proofs.Regex.Contained
import TemplateBench.Proofs.Regex.Start

/-!
Ways through a text, whatever is preferred on them.

* `Way`: a way from one configuration to another, with the borders that its steps set.
* `way_chars_iff` and the like: what a way to the end does with the first task.
* `Way.reaches`, `exists_way`: there is a match if there is a way to the end, and it takes one.
* `group?_of_outermost`: a group around all of a pattern captures the whole match.
-/
namespace TemplateBench.Regex

/-- A way from one configuration to another; `borders` are those that it sets, last first. -/
inductive Way (text : List Char) : Config → List Border → Config → Prop
  | refl (u : Config) : Way text u [] u
  | step {u v : Config} {borders : List Border} {next : Config × List Border} :
      next ∈ u.nexts text → Way text next.1 borders v → Way text u (borders ++ next.2) v

variable {text : List Char} {u v : Config} {borders : List Border} {i stop : Nat}
  {rest : List Task}

theorem Preferred.way {visited visited' : List Config}
    (h : Preferred text visited u borders visited' v) : Way text u borders v := by
  induction h with
  | refl _ => exact .refl _
  | step _ hn _ _ ih => exact .step (hn ▸ by simp) ih

theorem Way.reaches (h : Way text u borders v) : Reaches text [] u v := by
  induction h with
  | refl u => exact .refl (by simp)
  | step hn _ ih => exact .step (by simp) hn ih

/-! ## The first task -/

theorem way_cons_iff {task : Task} :
    Way text ⟨i, task :: rest⟩ borders ⟨stop, []⟩ ↔
      ∃ next ∈ (Config.mk i (task :: rest)).nexts text, ∃ more,
        Way text next.1 more ⟨stop, []⟩ ∧ borders = more ++ next.2 := by
  constructor
  · rintro (_ | ⟨hn, hw⟩)
    exact ⟨_, hn, _, hw, rfl⟩
  · rintro ⟨next, hn, more, hw, rfl⟩
    exact .step hn hw

theorem way_nil_iff :
    Way text ⟨i, []⟩ borders ⟨stop, []⟩ ↔ i = stop ∧ borders = [] := by
  constructor
  · rintro (_ | ⟨hn, _⟩)
    · exact ⟨rfl, rfl⟩
    · cases hn
  · rintro ⟨rfl, rfl⟩
    exact .refl _

/-- A task that leaves no choice. -/
theorem way_single_iff {task : Task} (v : Config) (set : List Border)
    (h : (Config.mk i (task :: rest)).nexts text = [(v, set)]) :
    Way text ⟨i, task :: rest⟩ borders ⟨stop, []⟩ ↔
      ∃ more, Way text v more ⟨stop, []⟩ ∧ borders = more ++ set := by
  rw [way_cons_iff, h]
  simp

theorem way_empty_iff :
    Way text ⟨i, .run .empty :: rest⟩ borders ⟨stop, []⟩ ↔
      Way text ⟨i, rest⟩ borders ⟨stop, []⟩ := by
  rw [way_single_iff ⟨i, rest⟩ [] rfl]
  simp

theorem way_seq_iff {p q : Pattern} :
    Way text ⟨i, .run (.seq p q) :: rest⟩ borders ⟨stop, []⟩ ↔
      Way text ⟨i, .run p :: .run q :: rest⟩ borders ⟨stop, []⟩ := by
  rw [way_single_iff ⟨i, .run p :: .run q :: rest⟩ [] rfl]
  simp

theorem way_group_iff {g : Nat} {p : Pattern} :
    Way text ⟨i, .run (.group g p) :: rest⟩ borders ⟨stop, []⟩ ↔
      ∃ more, Way text ⟨i, .run p :: .close g :: rest⟩ more ⟨stop, []⟩ ∧
        borders = more ++ [.opened g i] :=
  way_single_iff _ _ rfl

theorem way_close_iff {g : Nat} :
    Way text ⟨i, .close g :: rest⟩ borders ⟨stop, []⟩ ↔
      ∃ more, Way text ⟨i, rest⟩ more ⟨stop, []⟩ ∧ borders = more ++ [.closed g i] :=
  way_single_iff _ _ rfl

theorem way_look_iff {l : Look} :
    Way text ⟨i, .run (.look l) :: rest⟩ borders ⟨stop, []⟩ ↔
      l.holds (placeAt text i).before (placeAt text i).after = true ∧
        Way text ⟨i, rest⟩ borders ⟨stop, []⟩ := by
  have hnexts : (Config.mk i (.run (.look l) :: rest)).nexts text =
      if l.holds (placeAt text i).before (placeAt text i).after then [(⟨i, rest⟩, [])] else [] := by
    simp only [Config.nexts, Task.unfold, Thread.unfold, Option.map_some]
    split <;> rfl
  rw [way_cons_iff, hnexts]
  split
  · rename_i h
    simp [h]
  · rename_i h
    simp [h]

theorem way_chars_iff {s : CharSet} :
    Way text ⟨i, .run (.chars s) :: rest⟩ borders ⟨stop, []⟩ ↔
      ∃ c, text[i]? = some c ∧ s.mem c = true ∧ Way text ⟨i + 1, rest⟩ borders ⟨stop, []⟩ := by
  have hnexts : (Config.mk i (.run (.chars s) :: rest)).nexts text =
      if Task.reads (.run (.chars s)) text[i]? then [(⟨i + 1, rest⟩, [])] else [] := rfl
  rw [way_cons_iff, hnexts]
  cases hc : text[i]? with
  | none => simp [Task.reads]
  | some c =>
    cases hmem : s.mem c <;> simp [Task.reads, hmem]

/-! ## Parts of a way -/

/-- The tasks behind the first one are left as they are. -/
theorem nexts_append {task : Task} {more : List Task} :
    (Config.mk i (task :: (more ++ rest))).nexts text =
      ((Config.mk i (task :: more)).nexts text).map fun c =>
        (⟨c.1.position, c.1.tasks ++ rest⟩, c.2) := by
  simp only [Config.nexts]
  split
  · simp
  · split <;> rfl

/-- A way through some tasks goes through the first of them and then through the others. -/
theorem way_append_iff {front : List Task} :
    Way text ⟨i, front ++ rest⟩ borders ⟨stop, []⟩ ↔
      ∃ k before behind, Way text ⟨i, front⟩ before ⟨k, []⟩ ∧
        Way text ⟨k, rest⟩ behind ⟨stop, []⟩ ∧ borders = behind ++ before := by
  constructor
  · generalize hu : (Config.mk i (front ++ rest)) = u
    generalize hv : (Config.mk stop []) = v
    intro h
    induction h generalizing i front with
    | refl u =>
      subst hv
      obtain ⟨rfl, hnil⟩ := Config.mk.inj hu
      obtain ⟨rfl, rfl⟩ := List.append_eq_nil_iff.mp hnil
      exact ⟨i, [], [], way_nil_iff.mpr ⟨rfl, rfl⟩, way_nil_iff.mpr ⟨rfl, rfl⟩, rfl⟩
    | @step u v borders next hn hw ih =>
      subst hu
      cases front with
      | nil => exact ⟨i, [], _, .refl _, .step hn hw, (List.append_nil _).symm⟩
      | cons task more =>
        rw [List.cons_append, nexts_append] at hn
        obtain ⟨first, hfirst, rfl⟩ := List.mem_map.mp hn
        obtain ⟨k, before, behind, hbefore, hbehind, rfl⟩ := ih rfl hv
        exact ⟨k, before ++ first.2, behind, .step hfirst hbefore, hbehind, List.append_assoc ..⟩
  · rintro ⟨k, before, behind, hbefore, hbehind, rfl⟩
    generalize hu : (Config.mk i front) = u at hbefore
    generalize hv : (Config.mk k []) = v at hbefore
    induction hbefore generalizing i front with
    | refl u =>
      obtain ⟨rfl, rfl⟩ := Config.mk.inj (hu.trans hv.symm)
      simpa using hbehind
    | @step u v before next hn _ ih =>
      subst hu
      cases front with
      | nil => cases hn
      | cons task more =>
        have hnext : ((⟨next.1.position, next.1.tasks ++ rest⟩, next.2) : Config × List Border) ∈
            (Config.mk i (task :: (more ++ rest))).nexts text := by
          rw [nexts_append]
          exact List.mem_map.mpr ⟨next, hn, rfl⟩
        rw [← List.append_assoc]
        exact @Way.step text _ _ _ (⟨next.1.position, next.1.tasks ++ rest⟩, next.2) hnext (ih rfl hv)

theorem way_seqs_iff {ps : List Pattern} :
    Way text ⟨i, .run (Pattern.seqs ps) :: rest⟩ borders ⟨stop, []⟩ ↔
      Way text ⟨i, ps.map .run ++ rest⟩ borders ⟨stop, []⟩ := by
  fun_induction Pattern.seqs ps generalizing i borders with
  | case1 => exact way_empty_iff
  | case2 p => rfl
  | case3 p more _ ih =>
    have hfront : ∀ tasks : List Task,
        (⟨i, .run p :: tasks⟩ : Config) = ⟨i, [.run p] ++ tasks⟩ := fun _ => rfl
    rw [way_seq_iff, List.map_cons, List.cons_append, hfront, hfront, way_append_iff,
      way_append_iff]
    simp only [ih]

/-- Between two rounds a repetition reads one more character, or it is left. -/
theorem way_again_iff {s : CharSet} {greedy : Bool} :
    Way text ⟨i, .again (.chars s) greedy true :: rest⟩ borders ⟨stop, []⟩ ↔
      (∃ c, text[i]? = some c ∧ s.mem c = true ∧
        Way text ⟨i + 1, .again (.chars s) greedy true :: rest⟩ borders ⟨stop, []⟩) ∨
      Way text ⟨i, rest⟩ borders ⟨stop, []⟩ := by
  have hnexts : (Config.mk i (.again (.chars s) greedy true :: rest)).nexts text =
      prefer greedy (⟨i, .run (.chars s) :: .again (.chars s) greedy true :: rest⟩, [])
        (⟨i, rest⟩, []) := by
    cases greedy <;> rfl
  rw [← way_chars_iff, way_cons_iff, hnexts]
  cases greedy <;> simp [prefer, or_comm]

theorem way_rounds_iff {s : CharSet} {greedy : Bool} :
    Way text ⟨i, .again (.chars s) greedy true :: rest⟩ borders ⟨stop, []⟩ ↔
      ∃ taken after, text.drop i = taken ++ after ∧ (∀ c ∈ taken, s.mem c = true) ∧
        Way text ⟨i + taken.length, rest⟩ borders ⟨stop, []⟩ := by
  constructor
  · generalize hn : text.length - i = n
    induction n generalizing i with
    | zero =>
      intro h
      rcases way_again_iff.mp h with ⟨c, hc, _⟩ | h
      · have hlt := (List.getElem?_eq_some_iff.mp hc).1
        omega
      · exact ⟨[], _, rfl, by simp, h⟩
    | succ n ih =>
      intro h
      rcases way_again_iff.mp h with ⟨c, hc, hmem, h⟩ | h
      · obtain ⟨taken, after, hdrop, htaken, h⟩ := ih (by omega) h
        obtain ⟨hlt, hget⟩ := List.getElem?_eq_some_iff.mp hc
        refine ⟨c :: taken, after, ?_, List.forall_mem_cons.mpr ⟨hmem, htaken⟩, ?_⟩
        · rw [List.drop_eq_getElem_cons hlt, hget, hdrop, List.cons_append]
        · rwa [List.length_cons, Nat.add_comm taken.length, ← Nat.add_assoc]
      · exact ⟨[], _, rfl, by simp, h⟩
  · rintro ⟨taken, after, hdrop, htaken, h⟩
    induction taken generalizing i with
    | nil => exact way_again_iff.mpr (.inr h)
    | cons c taken ih =>
      obtain ⟨hc, hdrop⟩ := drop_eq_cons hdrop
      obtain ⟨hmem, htaken⟩ := List.forall_mem_cons.mp htaken
      refine way_again_iff.mpr (.inl ⟨c, hc, hmem, ih hdrop htaken ?_⟩)
      rwa [List.length_cons, Nat.add_comm taken.length, ← Nat.add_assoc] at h

/-- As many characters of a set as there have to be, and any more of them. -/
theorem way_many_iff {s : CharSet} {least : Nat} {greedy : Bool} (hleast : least ≤ 1) :
    Way text ⟨i, .run (.times (.chars s) least none greedy) :: rest⟩ borders ⟨stop, []⟩ ↔
      ∃ taken after, text.drop i = taken ++ after ∧ (∀ c ∈ taken, s.mem c = true) ∧
        least ≤ taken.length ∧ Way text ⟨i + taken.length, rest⟩ borders ⟨stop, []⟩ := by
  rcases least with _ | _ | least
  · have hsame : Way text ⟨i, .run (.times (.chars s) 0 none greedy) :: rest⟩ borders ⟨stop, []⟩ ↔
        Way text ⟨i, .again (.chars s) greedy true :: rest⟩ borders ⟨stop, []⟩ := by
      rw [way_cons_iff, way_cons_iff]
      rfl
    simp [hsame, way_rounds_iff]
  · rw [way_single_iff ⟨i, .run (.chars s) :: .again (.chars s) greedy true :: rest⟩ [] rfl]
    simp only [List.append_nil, exists_eq_right', way_chars_iff, way_rounds_iff]
    constructor
    · rintro ⟨c, hc, hmem, taken, after, hdrop, htaken, h⟩
      obtain ⟨hlt, hget⟩ := List.getElem?_eq_some_iff.mp hc
      refine ⟨c :: taken, after, ?_, List.forall_mem_cons.mpr ⟨hmem, htaken⟩, by simp, ?_⟩
      · rw [List.drop_eq_getElem_cons hlt, hget, hdrop, List.cons_append]
      · rwa [List.length_cons, Nat.add_comm taken.length, ← Nat.add_assoc]
    · rintro ⟨_ | ⟨c, taken⟩, after, hdrop, htaken, hlength, h⟩
      · cases hlength
      · obtain ⟨hc, hdrop⟩ := drop_eq_cons hdrop
        obtain ⟨hmem, htaken⟩ := List.forall_mem_cons.mp htaken
        rw [List.length_cons, Nat.add_comm taken.length, ← Nat.add_assoc] at h
        exact ⟨c, hc, hmem, taken, after, hdrop, htaken, h⟩
  · omega

/-! ## Matches -/

/-- A way sets borders of the groups only that are in its tasks. -/
theorem Way.apart {hole : Pattern} (h : Way text u borders v)
    (hu : ∀ t ∈ u.tasks, t.Apart hole) : ∀ b ∈ borders, b.group ∉ hole.numbers := by
  induction h with
  | refl _ => simp
  | @step u v borders next hn _ ih =>
    refine List.forall_mem_append.mpr ⟨ih (Config.nexts_apart hu next hn), fun b hb => ?_⟩
    obtain ⟨_, t, ht, hgroup⟩ := Config.nexts_borders hn b hb
    exact hu t ht _ hgroup

theorem exists_way {p : Pattern} {m : Match}
    (h : matchAt p i (placeAt text i).before (text.drop i) = some m) :
    Way text ⟨i, [.run p]⟩ m.borders ⟨m.stop, []⟩ := by
  obtain ⟨_, hp⟩ := matchAt_preferred h
  exact hp.way

/-- The group around all of a pattern captures the whole match. -/
theorem group?_of_outermost {g : Nat} {q : Pattern} {m : Match} (hq : g ∉ q.numbers)
    (h : matchAt (.group g q) i (placeAt text i).before (text.drop i) = some m) :
    m.group? g = some (m.start, m.stop) := by
  obtain ⟨more, hway, hborders⟩ := way_group_iff.mp (exists_way h)
  have hfront : (⟨i, [.run q, .close g]⟩ : Config) = ⟨i, [.run q] ++ [.close g]⟩ := rfl
  rw [hfront, way_append_iff] at hway
  obtain ⟨k, before, behind, hbefore, hbehind, rfl⟩ := hway
  obtain ⟨last, hlast, rfl⟩ := way_close_iff.mp hbehind
  obtain ⟨rfl, rfl⟩ := way_nil_iff.mp hlast
  have hapart : ∀ b ∈ before, b.group ≠ g := by
    have hhole : ∀ t ∈ [Task.run q], t.Apart (.group g .empty) := by
      intro t ht n hn he
      obtain rfl := List.mem_singleton.mp ht
      obtain rfl : n = g := by simpa [Pattern.numbers] using he
      exact hq hn
    simpa [Pattern.numbers] using hbefore.apart hhole
  rw [Match.group?_eq_some_iff, hborders, matchAt_start_eq h]
  have hopened : before.findSome? (Border.openedAt g) = none :=
    List.findSome?_eq_none_iff.mpr fun b hb => Border.openedAt_of_ne (hapart b hb)
  simp [List.findSome?_append, List.findSome?_cons, hopened, Border.openedAt, Border.closedAt]

end TemplateBench.Regex
