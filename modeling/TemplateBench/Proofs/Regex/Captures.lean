import TemplateBench.Proofs.Regex.Inside

/-!
What groups capture, from the borders of a match.

* `Match.group?_eq`: a group spans from where it was last opened to where it was last closed.
* `group?_framed`: the groups of a match keep their spans within a larger one.
* `groupText_framed`: and so their texts.
* `groupText_subset`: what is captured is a part of the text.
-/
namespace TemplateBench.Regex

namespace Border

def openedAt (g : Nat) : Border → Option Nat
  | .opened h i => if h = g then some i else none
  | .closed .. => none

def closedAt (g : Nat) : Border → Option Nat
  | .opened .. => none
  | .closed h i => if h = g then some i else none

variable {g : Nat} {b : Border}

theorem openedAt_of_ne (h : b.group ≠ g) : b.openedAt g = none := by
  cases b <;> simp_all [openedAt, group]

theorem closedAt_of_ne (h : b.group ≠ g) : b.closedAt g = none := by
  cases b <;> simp_all [closedAt, group]

theorem openedAt_shift (g k s : Nat) (b : Border) :
    (b.shift k s).openedAt (g + k) = (b.openedAt g).map (· + s) := by
  cases b <;> simp [openedAt, shift, apply_ite]

theorem closedAt_shift (g k s : Nat) (b : Border) :
    (b.shift k s).closedAt (g + k) = (b.closedAt g).map (· + s) := by
  cases b <;> simp [closedAt, shift, apply_ite]

theorem position_of_closedAt {i : Nat} (h : b.closedAt g = some i) : b.position = i := by
  cases b with
  | opened h j => cases h
  | closed h j => simp_all [closedAt, position]

end Border

open Border

theorem lastOpened_eq (g : Nat) (borders : List Border) :
    lastOpened g borders = borders.findSome? (openedAt g) := by
  induction borders with
  | nil => rfl
  | cons b rest ih =>
    cases b with
    | opened h i => by_cases hg : h = g <;> simp [lastOpened, openedAt, hg, ih]
    | closed h i => exact ih

theorem lastClosed_eq (g : Nat) (borders : List Border) :
    lastClosed g borders = borders.findSome? (closedAt g) := by
  induction borders with
  | nil => rfl
  | cons b rest ih =>
    cases b with
    | opened h i => exact ih
    | closed h i => by_cases hg : h = g <;> simp [lastClosed, closedAt, hg, ih]

theorem Match.group?_eq (m : Match) (g : Nat) :
    m.group? g = (m.borders.findSome? (openedAt g)).bind fun start =>
      (m.borders.findSome? (closedAt g)).map fun stop => (start, stop) := by
  rw [group?, lastOpened_eq, lastClosed_eq]
  cases m.borders.findSome? (openedAt g) <;> cases m.borders.findSome? (closedAt g) <;> rfl

theorem Match.group?_eq_some_iff {m : Match} {g start stop : Nat} :
    m.group? g = some (start, stop) ↔ m.borders.findSome? (openedAt g) = some start ∧
      m.borders.findSome? (closedAt g) = some stop := by
  rw [group?_eq]
  cases m.borders.findSome? (openedAt g) <;> cases m.borders.findSome? (closedAt g) <;> simp

/-! ## Matches within larger ones -/

/-- What is found of a group in a part of the borders is found in all of them, if no other part has
borders of the group. -/
theorem findSome?_framed {f f' : Border → Option Nat} {g k s : Nat}
    (hshift : ∀ b, f' (b.shift k s) = (f b).map (· + s))
    (hne : ∀ b, b.group ≠ g + k → f' b = none) {outer own before : List Border}
    (houter : ∀ b ∈ outer, b.group ≠ g + k) (hbefore : ∀ b ∈ before, b.group ≠ g + k) :
    (outer ++ own.map (Border.shift k s) ++ before).findSome? f' =
      (own.findSome? f).map (· + s) := by
  have hnone : ∀ more : List Border, (∀ b ∈ more, b.group ≠ g + k) → more.findSome? f' = none :=
    fun more hmore => List.findSome?_eq_none_iff.mpr fun b hb => hne b (hmore b hb)
  have hown : (own.map (Border.shift k s)).findSome? f' = (own.findSome? f).map (· + s) := by
    induction own with
    | nil => rfl
    | cons b rest ih => cases hb : f b <;> simp [hshift, hb, ih]
  simp [List.findSome?_append, hnone outer houter, hnone before hbefore, hown]

theorem group?_framed {m own : Match} {g k s : Nat} {outer before : List Border}
    (hm : m.borders = outer ++ own.borders.map (Border.shift k s) ++ before)
    (houter : ∀ b ∈ outer, b.group ≠ g + k) (hbefore : ∀ b ∈ before, b.group ≠ g + k) :
    m.group? (g + k) = (own.group? g).map fun span => (span.1 + s, span.2 + s) := by
  rw [Match.group?_eq, Match.group?_eq, hm,
    findSome?_framed (openedAt_shift g k s) (fun _ => openedAt_of_ne) houter hbefore,
    findSome?_framed (closedAt_shift g k s) (fun _ => closedAt_of_ne) houter hbefore]
  cases own.borders.findSome? (openedAt g) <;> cases own.borders.findSome? (closedAt g) <;> rfl

theorem groupText_eq (text : List Char) (m : Match) (g : Nat) :
    groupText text m g = (m.group? g).map fun span =>
      String.ofList ((text.drop span.1).take (span.2 - span.1)) := rfl

/-- What a group captures is a part of the text. -/
theorem groupText_subset {text : List Char} {m : Match} {g : Nat} {captured : String}
    (h : groupText text m g = some captured) : captured.toList ⊆ text := by
  rw [groupText_eq] at h
  obtain ⟨span, _, rfl⟩ := Option.map_eq_some_iff.mp h
  rw [String.toList_ofList]
  exact List.Subset.trans (List.take_subset _ _) (List.drop_subset _ _)

theorem namedGroups_subset {r : Regex} {text : List Char} {m : Match} {name captured : String}
    (h : (name, some captured) ∈ r.namedGroups text m) : captured.toList ⊆ text := by
  obtain ⟨⟨_, g⟩, _, hgroup⟩ := List.mem_filterMap.mp h
  obtain ⟨_, _, hgroup⟩ := Option.map_eq_some_iff.mp hgroup
  exact groupText_subset (Prod.mk.inj hgroup).2

theorem groupText_framed {text : List Char} {m own : Match} {g k s n : Nat}
    (h : m.group? (g + k) = (own.group? g).map fun span => (span.1 + s, span.2 + s))
    (hn : ∀ start stop, own.group? g = some (start, stop) → stop ≤ n) :
    groupText text m (g + k) = groupText ((text.drop s).take n) own g := by
  rw [groupText_eq, groupText_eq, h]
  cases hspan : own.group? g with
  | none => rfl
  | some span =>
    obtain ⟨start, stop⟩ := span
    have hstop := hn start stop hspan
    simp only [Option.map_some, Option.some.injEq]
    rw [List.drop_take, List.drop_drop, List.take_take, Nat.add_sub_add_right,
      Nat.min_eq_left (Nat.sub_le_sub_right hstop start), Nat.add_comm s start]

end TemplateBench.Regex
