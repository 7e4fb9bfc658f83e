import Mathlib.Data.List.Nodup
import Mathlib.Data.String.Basic

/-!
Lists sorted by a text that tells their elements apart.

* `pairwise_lt_mergeSort`: sorting makes such a list strictly increasing.
* `mergeSort_eq_of_perm`: the sorted list does not depend on the order before.
* `find?_eq_some_iff_first`, `findSome?_eq_some_iff_first`: in a strictly increasing list a search
  finds the least element that it looks for.
-/
namespace TemplateBench.Text

variable {α β : Type} {key : α → String} {xs ys : List α} {a : α}

/-! ## Sorting -/

theorem pairwise_le_mergeSort (key : α → String) (xs : List α) :
    (xs.mergeSort fun a b => decide (key a ≤ key b)).Pairwise fun a b => key a ≤ key b := by
  have hsorted : (xs.mergeSort fun a b => decide (key a ≤ key b)).Pairwise
      fun a b => decide (key a ≤ key b) = true := by
    refine List.pairwise_mergeSort (fun a b c hab hbc => ?_) (fun a b => ?_) xs
    · rw [decide_eq_true_eq] at hab hbc ⊢
      exact String.le_trans hab hbc
    · simpa using String.le_total (key a) (key b)
  exact hsorted.imp fun h => of_decide_eq_true h

theorem pairwise_lt_mergeSort (h : (xs.map key).Nodup) :
    (xs.mergeSort fun a b => decide (key a ≤ key b)).Pairwise fun a b => key a < key b := by
  have hdistinct : (xs.mergeSort fun a b => decide (key a ≤ key b)).Pairwise
      fun a b => key a ≠ key b :=
    List.pairwise_map.mp (((List.mergeSort_perm xs _).map key).nodup_iff.mpr h)
  refine (pairwise_le_mergeSort key xs).imp₂ (fun {a b} hle hne => ?_) hdistinct
  exact String.not_le.mp fun hge => hne (String.le_antisymm hle hge)

theorem mergeSort_eq_of_perm (h : (xs.map key).Nodup) (hperm : ys.Perm xs) :
    (ys.mergeSort fun a b => decide (key a ≤ key b)) =
      xs.mergeSort fun a b => decide (key a ≤ key b) := by
  have hys : (ys.map key).Nodup := (hperm.map key).nodup_iff.mpr h
  have hboth := (List.mergeSort_perm ys fun a b => decide (key a ≤ key b)).trans
    (hperm.trans (List.mergeSort_perm xs fun a b => decide (key a ≤ key b)).symm)
  refine hboth.eq_of_pairwise (fun a b _ _ hab hba => ?_) (pairwise_lt_mergeSort hys)
    (pairwise_lt_mergeSort h)
  exact absurd (String.lt_trans hab hba) (String.lt_irrefl _)

/-! ## Searching -/

/-- What stands before an element of a strictly increasing list is what is less. -/
theorem mem_front_iff {front back : List α}
    (h : (front ++ a :: back).Pairwise fun a b => key a < key b) {x : α} :
    x ∈ front ↔ x ∈ front ++ a :: back ∧ key x < key a := by
  obtain ⟨-, hback, hfront⟩ := List.pairwise_append.mp h
  constructor
  · intro hx
    exact ⟨List.mem_append_left _ hx, hfront x hx a (by simp)⟩
  · rintro ⟨hx, hlt⟩
    rcases List.mem_append.mp hx with hx | hx
    · exact hx
    · exfalso
      rcases List.mem_cons.mp hx with rfl | hx
      · exact String.lt_irrefl _ hlt
      · exact String.lt_irrefl _ (String.lt_trans hlt (List.rel_of_pairwise_cons hback hx))

theorem find?_eq_some_iff_first (h : xs.Pairwise fun a b => key a < key b) {p : α → Bool} :
    xs.find? p = some a ↔ a ∈ xs ∧ p a = true ∧ ∀ x ∈ xs, key x < key a → p x = false := by
  rw [List.find?_eq_some_iff_append]
  constructor
  · rintro ⟨hp, front, back, rfl, hfront⟩
    refine ⟨by simp, hp, fun x hx hlt => ?_⟩
    simpa using hfront x ((mem_front_iff h).mpr ⟨hx, hlt⟩)
  · rintro ⟨ha, hp, hfirst⟩
    obtain ⟨front, back, rfl⟩ := List.append_of_mem ha
    refine ⟨hp, front, back, rfl, fun x hx => ?_⟩
    obtain ⟨hx, hlt⟩ := (mem_front_iff h).mp hx
    simpa using hfirst x hx hlt

theorem findSome?_eq_some_iff_first (h : xs.Pairwise fun a b => key a < key b) {f : α → Option β}
    {b : β} :
    xs.findSome? f = some b ↔ ∃ a ∈ xs, f a = some b ∧ ∀ x ∈ xs, key x < key a → f x = none := by
  rw [List.findSome?_eq_some_iff]
  constructor
  · rintro ⟨front, a, back, rfl, hf, hfront⟩
    refine ⟨a, by simp, hf, fun x hx hlt => ?_⟩
    exact hfront x ((mem_front_iff h).mpr ⟨hx, hlt⟩)
  · rintro ⟨a, ha, hf, hfirst⟩
    obtain ⟨front, back, rfl⟩ := List.append_of_mem ha
    refine ⟨front, a, back, rfl, hf, fun x hx => ?_⟩
    obtain ⟨hx, hlt⟩ := (mem_front_iff h).mp hx
    exact hfirst x hx hlt

end TemplateBench.Text
