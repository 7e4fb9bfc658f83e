import TemplateBench.Proofs.Regex.Captures
import TemplateBench.Proofs.Regex.Priority

/-!
A group of a larger pattern that matches as it does alone.

* `Pattern.Holds`: a pattern holds another one at one place, which is inside of no repetition.
* `Preferred.comes`, `Preferred.through`: a match comes to the group it holds and goes through it.
* `Passage`: what a match does before the group, in it and after it.
* `groupText_contained`: what the group captures, and the groups in it.
-/
namespace TemplateBench.Regex

/-! ## Patterns that hold a group -/

/-- No group of the one pattern is numbered as one of the other. -/
def Pattern.Apart (p hole : Pattern) : Prop := ∀ g ∈ p.numbers, g ∉ hole.numbers

instance (p hole : Pattern) : Decidable (p.Apart hole) :=
  inferInstanceAs (Decidable (∀ g ∈ p.numbers, g ∉ hole.numbers))

/-- A pattern that holds another one at one place, which is inside of no repetition. -/
def Pattern.Holds : Pattern → Pattern → Prop
  | .group g p, hole => .group g p = hole ∨ g ∉ hole.numbers ∧ p.Holds hole
  | .seq p q, hole => .seq p q = hole ∨ p.Holds hole ∧ q.Apart hole ∨ p.Apart hole ∧ q.Holds hole
  | .alt p q, hole => .alt p q = hole ∨ p.Holds hole ∧ q.Apart hole ∨ p.Apart hole ∧ q.Holds hole
  | p, hole => p = hole

instance Pattern.decidableHolds (hole : Pattern) : (p : Pattern) → Decidable (p.Holds hole)
  | .group _ p =>
    have := decidableHolds hole p
    inferInstanceAs (Decidable (_ = _ ∨ _ ∧ _))
  | .seq p q | .alt p q =>
    have := decidableHolds hole p
    have := decidableHolds hole q
    inferInstanceAs (Decidable (_ = _ ∨ _ ∧ _ ∨ _ ∧ _))
  | .empty | .chars _ | .look _ | .times .. => inferInstanceAs (Decidable (_ = _))

namespace Pattern

variable {p q hole : Pattern}

theorem Holds.numbers_subset (h : p.Holds hole) : ∀ g ∈ hole.numbers, g ∈ p.numbers := by
  induction p with
  | empty | chars | look | times =>
    obtain rfl := h
    exact fun g hg => hg
  | group g p ih =>
    rcases h with rfl | ⟨_, h⟩
    · exact fun g hg => hg
    · exact fun g hg => List.mem_cons_of_mem _ (ih h g hg)
  | seq p q ihp ihq | alt p q ihp ihq =>
    rcases h with rfl | ⟨h, _⟩ | ⟨_, h⟩
    · exact fun g hg => hg
    · exact fun g hg => List.mem_append_left _ (ihp h g hg)
    · exact fun g hg => List.mem_append_right _ (ihq h g hg)

end Pattern

/-! ## In front of the group -/

def Task.Apart (task : Task) (hole : Pattern) : Prop := ∀ g ∈ task.numbers, g ∉ hole.numbers

theorem Task.apart_rested {hole : Pattern} {tasks : List Task} (h : ∀ t ∈ tasks, t.Apart hole) :
    ∀ t ∈ tasks.map Task.rested, t.Apart hole := by
  intro t ht
  obtain ⟨task, htask, rfl⟩ := List.mem_map.mp ht
  simpa [Apart] using h task htask

/-- A configuration that has one task which holds a pattern. -/
def Config.Before (hole : Pattern) (u : Config) : Prop :=
  ∃ front p behind, u.tasks = front ++ .run p :: behind ∧ p.Holds hole ∧
    ∀ t ∈ front ++ behind, t.Apart hole

theorem Task.Choice.holds {place : Place} {p hole : Pattern} {new : List Task} {set : List Border}
    (h : Task.Choice place (.run p) new set) (hp : p.Holds hole) (hne : p ≠ hole) :
    ((∃ front q behind, new = front ++ .run q :: behind ∧ q.Holds hole ∧
        ∀ t ∈ front ++ behind, t.Apart hole) ∨ ∀ t ∈ new, t.Apart hole) ∧
      ∀ b ∈ set, b.group ∉ hole.numbers := by
  cases h with
  | empty | look | skip | enter | least | counted => exact absurd hp hne
  | group g p =>
    obtain ⟨hg, hp⟩ := hp.resolve_left hne
    refine ⟨.inl ⟨[], p, [.close g], rfl, hp, ?_⟩, by simpa [Border.group] using hg⟩
    simpa [Task.Apart, Task.numbers] using hg
  | seq p q =>
    rcases hp.resolve_left hne with ⟨hp, hq⟩ | ⟨hp, hq⟩
    · exact ⟨.inl ⟨[], p, [.run q], rfl, hp, List.forall_mem_singleton.mpr hq⟩, by simp⟩
    · exact ⟨.inl ⟨[.run p], q, [], rfl, hq, List.forall_mem_singleton.mpr hp⟩, by simp⟩
  | left p q =>
    rcases hp.resolve_left hne with ⟨hp, _⟩ | ⟨hp, _⟩
    · exact ⟨.inl ⟨[], p, [], rfl, hp, by simp⟩, by simp⟩
    · exact ⟨.inr (List.forall_mem_singleton.mpr hp), by simp⟩
  | right p q =>
    rcases hp.resolve_left hne with ⟨_, hq⟩ | ⟨_, hq⟩
    · exact ⟨.inr (List.forall_mem_singleton.mpr hq), by simp⟩
    · exact ⟨.inl ⟨[], q, [], rfl, hq, by simp⟩, by simp⟩

section

variable {text : List Char} {hole : Pattern} {u : Config}

theorem Config.nexts_apart (hu : ∀ t ∈ u.tasks, t.Apart hole) :
    ∀ c ∈ u.nexts text, ∀ t ∈ c.1.tasks, t.Apart hole := by
  refine Config.forall_nexts (fun {place task new set} hchoice ht t hm g hg => ?_) hu
  rw [Task.numbers_rested] at hg
  exact ht g (hchoice.numbers t hm g hg)

/-- In front of the pattern, what is next is still in front of it, or has taken another way. -/
theorem Config.Before.next (hu : u.Before hole) (hne : u.tasks.head? ≠ some (.run hole)) :
    ∀ c ∈ u.nexts text, (c.1.Before hole ∨ ∀ t ∈ c.1.tasks, t.Apart hole) ∧
      ∀ b ∈ c.2, b.group ∉ hole.numbers := by
  obtain ⟨i, tasks⟩ := u
  obtain ⟨front, p, behind, rfl, hp, hapart⟩ := hu
  intro c hc
  cases front with
  | nil =>
    rcases nexts_cases hc with ⟨new, hchoice, he⟩ | ⟨s, char, hs, _, _, rfl⟩
    · obtain ⟨hnew, hset⟩ := hchoice.holds hp (by rintro rfl; exact hne rfl)
      refine ⟨hnew.imp ?_ ?_, hset⟩
      · rintro ⟨front, q, more, rfl, hq, hmore⟩
        refine ⟨front.map Task.rested, q, more.map Task.rested ++ behind, by simp [he], hq, ?_⟩
        rw [← List.append_assoc, ← List.map_append]
        exact List.forall_mem_append.mpr ⟨Task.apart_rested hmore, hapart⟩
      · intro hnew
        rw [he]
        exact List.forall_mem_append.mpr ⟨Task.apart_rested hnew, hapart⟩
    · cases hs
      obtain rfl := hp
      exact absurd rfl hne
  | cons task front =>
    obtain ⟨htask, hapart⟩ := List.forall_mem_cons.mp hapart
    rcases nexts_cases hc with ⟨new, hchoice, he⟩ | ⟨s, char, _, _, _, rfl⟩
    · refine ⟨.inl ⟨new.map Task.rested ++ front, p, behind, by simp [he], hp, ?_⟩, ?_⟩
      · rw [List.append_assoc]
        refine List.forall_mem_append.mpr ⟨Task.apart_rested fun t ht g hg => ?_, hapart⟩
        exact htask g (hchoice.numbers t ht g hg)
      · exact fun b hb => htask _ (hchoice.borders b hb).1
    · exact ⟨.inl ⟨front, p, behind, rfl, hp, hapart⟩, by simp⟩

theorem Config.Before.opens {g : Nat} (hg : g ∈ hole.numbers) (hu : u.Before hole) : u.Opens g := by
  obtain ⟨front, p, behind, htasks, hp, _⟩ := hu
  exact ⟨.run p, by simp [htasks], hp.numbers_subset g hg⟩

variable {visited visited' : List Config} {v : Config} {borders : List Border}

theorem Preferred.apart (h : Preferred text visited u borders visited' v)
    (hu : ∀ t ∈ u.tasks, t.Apart hole) : ∀ b ∈ borders, b.group ∉ hole.numbers := by
  induction h with
  | refl _ => simp
  | @step visited visited' borders u v before after next _ hn _ _ ih =>
    have hnext : next ∈ u.nexts text := by simp [hn]
    refine List.forall_mem_append.mpr ⟨ih (Config.nexts_apart hu next hnext), fun b hb => ?_⟩
    obtain ⟨_, t, ht, hgroup⟩ := Config.nexts_borders hnext b hb
    exact hu t ht _ hgroup

/-- A preferred way sets no border of the pattern it holds, or it comes to that pattern. -/
theorem Preferred.comes {g : Nat} (h : Preferred text visited u borders visited' v)
    (hg : g ∈ hole.numbers) (hv : v.tasks = []) (hu : u.Before hole)
    (hvisited : ∀ z ∈ visited, z.Opens g) :
    (∀ b ∈ borders, b.group ∉ hole.numbers) ∨
    ∃ s behind entered inner outer,
      (∀ t ∈ behind, t.Apart hole) ∧
      (∀ z ∈ entered, z.Opens g) ∧
      Preferred text entered ⟨s, .run hole :: behind⟩ inner visited' v ∧
      borders = inner ++ outer ∧ ∀ b ∈ outer, b.group ∉ hole.numbers := by
  induction h with
  | refl _ =>
    obtain ⟨front, p, behind, htasks, _⟩ := hu
    rw [hv] at htasks
    exact absurd htasks.symm (by simp)
  | @step visited visited' borders u v before after next hnot hn hbefore hp ih =>
    by_cases hhead : u.tasks.head? = some (.run hole)
    · obtain ⟨i, tasks⟩ := u
      obtain ⟨front, p, behind, rfl, _, hapart⟩ := hu
      cases front with
      | nil =>
        obtain rfl : p = hole := by simpa using hhead
        exact .inr ⟨i, behind, visited, _, [], hapart, hvisited, .step hnot hn hbefore hp,
          (List.append_nil _).symm, by simp⟩
      | cons task front =>
        obtain rfl : task = .run hole := by simpa using hhead
        exact absurd hg (hapart _ List.mem_cons_self g hg)
    · have hnext : next ∈ u.nexts text := by simp [hn]
      obtain ⟨hbehind, hset⟩ := hu.next hhead next hnext
      rcases hbehind with hnew | hnew
      · have hopens : ∀ z ∈ u :: visited, z.Opens g :=
          List.forall_mem_cons.mpr ⟨hu.opens hg, hvisited⟩
        rcases ih hv hnew hopens with hnone | hsome
        · exact .inl (List.forall_mem_append.mpr ⟨hnone, hset⟩)
        · obtain ⟨s, behind, entered, inner, outer, hapart, hentered, hinner, rfl, houter⟩ := hsome
          exact .inr ⟨s, behind, entered, inner, outer ++ next.2, hapart, hentered, hinner,
            List.append_assoc _ _ _, List.forall_mem_append.mpr ⟨houter, hset⟩⟩
      · exact .inl (List.forall_mem_append.mpr ⟨hp.apart hnew, hset⟩)

end

/-! ## Within the group -/

section

variable {text : List Char} {k s g i : Nat} {behind : List Task} {visited visited' : List Config}
  {u : Config} {borders : List Border}

/-- Behind the opening of a group it is not opened again. -/
theorem Inside.openedAt (h : Inside text k s behind visited u borders visited' i)
    (hu : u.Within g) : ∀ b ∈ borders, b.openedAt g = none := by
  induction h with
  | leave _ => simp
  | @step visited visited' u borders i before after next _ hn _ _ ih =>
    have hnext : next ∈ u.nexts (text.drop s) := by simp [hn]
    refine List.forall_mem_append.mpr ⟨ih (hu.next next hnext), fun b hb => ?_⟩
    cases b with
    | closed h j => rfl
    | opened h j =>
      obtain ⟨t, ht, hopens⟩ := Config.nexts_opened hnext hb
      refine Border.openedAt_of_ne ?_
      rintro rfl
      exact (hu t ht).2 hopens

/-- The group is closed where it is left. -/
theorem Inside.closedAt (h : Inside text k s behind visited u borders visited' i) :
    ∀ {front : List Task}, u.tasks = front ++ [.close g] →
      ∃ more, borders = .closed g i :: more := by
  induction h with
  | leave _ =>
    intro front hu
    exact absurd hu.symm (by simp)
  | @step visited visited' u borders i before after next _ hn _ hi ih =>
    rintro front hu
    obtain ⟨j, tasks⟩ := u
    obtain rfl : tasks = front ++ [.close g] := hu
    cases front with
    | nil =>
      have hlast : [(Config.mk j [], [Border.closed g j])] = before ++ next :: after := hn
      obtain ⟨rfl, rfl, rfl⟩ : before = [] ∧ next = (⟨j, []⟩, [.closed g j]) ∧ after = [] := by
        simpa [List.append_eq_singleton_iff] using hlast.symm
      cases hi with
      | leave _ => exact ⟨[], rfl⟩
      | step _ hn _ _ => simp at hn
    | cons task front =>
      have hnext : next ∈ (Config.mk j (task :: (front ++ [.close g]))).nexts (text.drop s) := by
        rw [← List.cons_append, hn]
        simp
      have hrest : ∃ front', next.1.tasks = front' ++ [.close g] := by
        rcases Config.nexts_cases hnext with ⟨new, _, he⟩ | ⟨s, char, _, _, _, rfl⟩
        · exact ⟨new.map Task.rested ++ front, by simp [he]⟩
        · exact ⟨front, rfl⟩
      obtain ⟨front', hrest⟩ := hrest
      obtain ⟨more, rfl⟩ := ih hrest
      exact ⟨more ++ next.2, rfl⟩

end

/-! ## The group of a match -/

section

variable {p q : Pattern} {text : List Char} {g k s i : Nat}

/-- A group as a pattern of its own. -/
def Config.ofGroup (g : Nat) (q : Pattern) : Config := ⟨0, [.run (.group g q)]⟩

/-- The group once it is opened. -/
def Config.ofOpened (g : Nat) (q : Pattern) : Config := ⟨0, [.run q, .close g]⟩

/-- A group is opened in one way. -/
theorem Config.ofGroup_nexts {before after : List (Config × List Border)}
    {next : Config × List Border} (h : (ofGroup g q).nexts text = before ++ next :: after) :
    next = (ofOpened g q, [.opened g 0]) := by
  have hone : (ofGroup g q).nexts text = [(ofOpened g q, [.opened g 0])] := rfl
  rw [hone] at h
  have hmem : next ∈ [(ofOpened g q, [Border.opened g 0])] := by simp [h]
  exact List.mem_singleton.mp hmem

theorem Config.ofOpened_within (hq : q.plain = true) (hg : g ∉ q.numbers) :
    (ofOpened g q).Within g := by
  intro t ht
  simp only [ofOpened, List.mem_cons, List.not_mem_nil, or_false] at ht
  rcases ht with rfl | rfl
  · exact ⟨hq, hg⟩
  · exact ⟨rfl, List.not_mem_nil⟩

/-- A match of a group alone opens it first. -/
theorem Preferred.ofGroup {visited : List Config} {v : Config} {borders : List Border}
    (h : Preferred text [] (Config.ofGroup g q) borders visited v) (hv : v.tasks = []) :
    ∃ within, borders = within ++ [.opened g 0] ∧
      Preferred text [Config.ofGroup g q] (Config.ofOpened g q) within visited v := by
  cases h with
  | refl _ => cases hv
  | step _ hn _ hp =>
    cases Config.ofGroup_nexts hn
    exact ⟨_, rfl, hp⟩

/-- A larger match that comes to the group opens it, goes through it and leaves it. -/
theorem Preferred.through {entered visited : List Config} {behind : List Task} {v : Config}
    {borders : List Border}
    (h : Preferred text entered ⟨s, .run ((Pattern.group g q).shift k) :: behind⟩ borders visited v)
    (hv : v.tasks = []) (hq : q.plain = true) :
    ∃ within outer left stop,
      Inside text k s behind ((Config.ofGroup g q).embed k s behind :: entered)
        (Config.ofOpened g q) within left stop ∧
      Preferred text left ((Config.mk stop []).embed k s behind) outer visited v ∧
      borders = outer ++ (within ++ [Border.opened g 0]).map (Border.shift k s) := by
  have hstart : (⟨s, .run ((Pattern.group g q).shift k) :: behind⟩ : Config) =
      (Config.ofGroup g q).embed k s behind := by
    simp [Config.ofGroup, Config.embed, Task.shift]
  obtain ⟨inner, left, stop, outer, hi, hp, rfl⟩ :=
    h.inside hv hstart (List.forall_mem_singleton.mpr hq)
  cases hi with
  | step _ hn _ hi =>
    cases Config.ofGroup_nexts hn
    exact ⟨_, outer, left, stop, hi, hp, rfl⟩

/-- A match at the start of a text captures nothing behind its end. -/
theorem matchAt_group?_le {m : Match} {n start stop : Nat} (hm : matchAt p 0 none text = some m)
    (h : m.group? n = some (start, stop)) : stop ≤ m.stop := by
  obtain ⟨visited, hway⟩ :
      ∃ visited, Preferred text [] ⟨0, [.run p]⟩ m.borders visited ⟨m.stop, []⟩ :=
    matchAt_preferred hm
  obtain ⟨b, hb, hclosed⟩ := List.exists_of_findSome?_eq_some (Match.group?_eq_some_iff.mp h).2
  rw [← Border.position_of_closedAt hclosed]
  exact hway.border_le b hb

/-- How a match passes a group that it holds: the way within the group, and what it has done before
and does after. -/
structure Passage (text : List Char) (g k : Nat) (q : Pattern) (m : Match) (start : Nat)
    (behind : List Task) (entered : List Config) (within : List Border) (left : List Config)
    (length : Nat) : Prop where
  inside : Inside text k start behind ((Config.ofGroup g q).embed k start behind :: entered)
    (Config.ofOpened g q) within left length
  leaves : Reaches text left ((Config.mk length []).embed k start behind) ⟨m.stop, []⟩
  behind : ∀ t ∈ behind, g + k ∉ t.opens
  entered : ∀ z ∈ entered, z.Opens (g + k)
  borders : ∃ outer before,
    m.borders = outer ++ (within ++ [Border.opened g 0]).map (Border.shift k start) ++ before ∧
    ∀ h ∈ (Pattern.group g q).numbers,
      (∀ b ∈ outer, b.group ≠ h + k) ∧ ∀ b ∈ before, b.group ≠ h + k

theorem exists_passage {m : Match}
    (hm : matchAt p i (placeAt text i).before (text.drop i) = some m)
    (hq : q.plain = true) (hg : g ∉ q.numbers) (hp : p.Holds ((Pattern.group g q).shift k))
    {start stop : Nat} (hgroup : m.group? (g + k) = some (start, stop)) :
    ∃ behind entered within left length,
      Passage text g k q m start behind entered within left length ∧ stop = length + start := by
  have hnumber : ∀ h ∈ (Pattern.group g q).numbers,
      h + k ∈ ((Pattern.group g q).shift k).numbers := by
    intro h hh
    rw [Pattern.numbers_shift]
    exact List.mem_map_of_mem hh
  have hown := hnumber g List.mem_cons_self
  rw [Match.group?_eq_some_iff] at hgroup
  obtain ⟨visited, hway⟩ := matchAt_preferred hm
  rcases hway.comes hown rfl ⟨[], p, [], rfl, hp, by simp⟩ (by simp) with hnone | ⟨s, behind,
    entered, inner, before, hbehind, hentered, hinner, hborders, hbefore⟩
  · have hnever : m.borders.findSome? (Border.openedAt (g + k)) = none := by
      refine List.findSome?_eq_none_iff.mpr fun b hb => Border.openedAt_of_ne ?_
      intro he
      exact hnone b hb (he ▸ hown)
    rw [hnever] at hgroup
    cases hgroup.1
  · obtain ⟨within, outer, left, n, hi, houter, rfl⟩ := hinner.through rfl hq
    have hapart : ∀ h ∈ (Pattern.group g q).numbers,
        (∀ b ∈ outer, b.group ≠ h + k) ∧ ∀ b ∈ before, b.group ≠ h + k := by
      intro h hh
      have hafter := houter.apart (by simpa [Config.embed] using hbehind)
      exact ⟨fun b hb he => hafter b hb (he ▸ hnumber h hh),
        fun b hb he => hbefore b hb (he ▸ hnumber h hh)⟩
    obtain ⟨houter', hbefore'⟩ := hapart g List.mem_cons_self
    have hopened : (within ++ [Border.opened g 0]).findSome? (Border.openedAt g) = some 0 := by
      have hwithin := hi.openedAt (Config.ofOpened_within hq hg)
      simp [List.findSome?_append, List.findSome?_eq_none_iff.mpr hwithin, Border.openedAt]
    have hclosed : (within ++ [Border.opened g 0]).findSome? (Border.closedAt g) = some n := by
      have hu : (Config.ofOpened g q).tasks = [.run q] ++ [.close g] := rfl
      obtain ⟨more, rfl⟩ := hi.closedAt hu
      simp [Border.closedAt]
    rw [hborders, findSome?_framed (Border.openedAt_shift g k s)
      (fun _ => Border.openedAt_of_ne) houter' hbefore', findSome?_framed
      (Border.closedAt_shift g k s) (fun _ => Border.closedAt_of_ne) houter' hbefore',
      hopened, hclosed, Option.map_some, Option.map_some, Nat.zero_add] at hgroup
    obtain rfl := Option.some.inj hgroup.1
    refine ⟨behind, entered, within, left, n, ⟨hi, houter.reaches, fun t ht hopens => ?_, hentered,
      outer, before, hborders, hapart⟩, (Option.some.inj hgroup.2).symm⟩
    exact hbehind t ht _ (t.opens_subset _ hopens) hown

namespace Passage

variable {m : Match} {start length : Nat} {behind : List Task} {entered left : List Config}
  {within : List Border}

/-- The group captures a part of the text. -/
theorem length_take (h : Passage text g k q m start behind entered within left length) :
    ((text.drop start).take length).length = length := by
  have hreaches := h.inside.reaches (List.forall_mem_nil _)
  exact List.length_take_of_le (hreaches.position.2 (Nat.zero_le _))

/-- What the group captures is matched by the group alone. -/
theorem exists_own (h : Passage text g k q m start behind entered within left length)
    (hq : q.plain = true) :
    ∃ own, matchAt (.group g q) 0 none ((text.drop start).take length) = some own := by
  have hplain : ∀ t ∈ (Config.ofGroup g q).tasks, t.plain = true := by
    simpa [Config.ofGroup, Task.plain, Pattern.plain] using hq
  have hreaches : Reaches (text.drop start) [] (Config.ofGroup g q) ⟨length, []⟩ := by
    have hopened := List.mem_singleton_self (Config.ofOpened g q, [Border.opened g 0])
    refine .step List.not_mem_nil hopened ?_
    exact h.inside.reaches (by simp)
  exact exists_matchAt (hreaches.take hplain (Nat.le_refl length))

/-- The groups in it capture the same where that match takes all that the group captures. -/
theorem group?_eq (h : Passage text g k q m start behind entered within left length)
    (hq : q.plain = true) (hg : g ∉ q.numbers) {own : Match}
    (hown : matchAt (.group g q) 0 none ((text.drop start).take length) = some own)
    (hstop : own.stop = length) {n : Nat} (hn : n ∈ (Pattern.group g q).numbers) :
    m.group? (n + k) = (own.group? n).map fun span => (span.1 + start, span.2 + start) := by
  obtain ⟨visited, hway⟩ : ∃ visited, Preferred ((text.drop start).take length) []
    (Config.ofGroup g q) own.borders visited ⟨own.stop, []⟩ := matchAt_preferred hown
  obtain ⟨within', hborders', hway'⟩ := hway.ofGroup rfl
  have hframed : Framed k start behind g [] entered :=
    ⟨by simp, fun z hz => .inr (h.entered z hz)⟩
  obtain rfl : within = within' := Inside.borders_eq h.behind hway' (by rw [hstop]) h.inside
    (by rw [hstop]; exact h.leaves) rfl (hframed.cons _) (Config.ofOpened_within hq hg)
  obtain ⟨outer, before, hborders, hapart⟩ := h.borders
  rw [← hborders'] at hborders
  exact group?_framed hborders (hapart n hn).1 (hapart n hn).2

end Passage

/-- **Captures within a group.** If a pattern holds a group without assertions at one place, what
the group captures is matched by the group alone. Where that match takes all of it, the groups
inside capture in both matches the same. -/
theorem groupText_contained {m : Match}
    (hm : matchAt p i (placeAt text i).before (text.drop i) = some m)
    (hq : q.plain = true) (hg : g ∉ q.numbers) (hp : p.Holds ((Pattern.group g q).shift k))
    {captured : String} (hcaptured : groupText text m (g + k) = some captured) :
    ∃ own, matchAt (.group g q) 0 none captured.toList = some own ∧
      (own.stop = captured.toList.length → ∀ n ∈ (Pattern.group g q).numbers,
        groupText text m (n + k) = groupText captured.toList own n) := by
  rw [groupText_eq, Option.map_eq_some_iff] at hcaptured
  obtain ⟨⟨start, stop⟩, hgroup, rfl⟩ := hcaptured
  obtain ⟨behind, entered, within, left, length, h, rfl⟩ := exists_passage hm hq hg hp hgroup
  obtain ⟨own, hown⟩ := h.exists_own hq
  simp only [Nat.add_sub_cancel, String.toList_ofList]
  refine ⟨own, hown, fun hstop n hn => ?_⟩
  rw [h.length_take] at hstop
  refine groupText_framed (h.group?_eq hq hg hown hstop hn) fun start' stop' hspan => ?_
  rw [← hstop]
  exact matchAt_group?_le hown hspan

end

end TemplateBench.Regex
