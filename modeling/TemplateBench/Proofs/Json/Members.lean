import Mathlib.Data.List.Perm.Basic
import Mathlib.Data.List.Nodup
import TemplateBench.Json.Value

/-!
Pairs with distinct names.

* `lookup_of_mem`: a pair is what looking its name up finds.
* `insert_perm`, `sortMembers_perm`: sorting members drops none of them and changes none.
* `field?_ofMembers`: so an object has the members that it is made of.
-/
namespace TemplateBench

/-- In a list of distinct names, a pair is what looking its name up finds. -/
theorem lookup_of_mem {β : Type} {pairs : List (String × β)} (hn : (pairs.map (·.1)).Nodup)
    {name : String} {value : β} (h : (name, value) ∈ pairs) :
    pairs.lookup name = some value := by
  obtain ⟨front, back, rfl⟩ := List.append_of_mem h
  rw [List.map_append, List.nodup_append] at hn
  refine List.lookup_eq_some_iff.mpr ⟨front, back, rfl, fun pair hm => bne_iff_ne.mpr ?_⟩
  exact (hn.2.2 pair.1 (List.mem_map_of_mem hm) name (by simp)).symm

theorem mem_of_lookup {β : Type} {pairs : List (String × β)} {name : String} {value : β}
    (h : pairs.lookup name = some value) : (name, value) ∈ pairs := by
  obtain ⟨_, _, rfl, _⟩ := List.lookup_eq_some_iff.mp h
  simp

namespace Json

/-- A member of a new name is added, and the others stay. -/
theorem insert_perm {name : String} (value : Json) {members : List (String × Json)}
    (h : name ∉ members.map (·.1)) : (insert name value members).Perm ((name, value) :: members) := by
  induction members with
  | nil => rfl
  | cons member rest ih =>
    obtain ⟨n, v⟩ := member
    simp only [List.map_cons, List.mem_cons, not_or] at h
    rw [insert, if_neg h.1]
    split
    · rfl
    · exact ((ih h.2).cons (n, v)).trans (.swap (name, value) (n, v) rest)

theorem foldl_insert_perm (members : List (String × Json)) :
    ∀ sorted : List (String × Json), ((sorted ++ members).map (·.1)).Nodup →
      (members.foldl (fun sorted (n, v) => insert n v sorted) sorted).Perm (sorted ++ members) := by
  induction members with
  | nil => intro sorted _; simp
  | cons member rest ih =>
    obtain ⟨n, v⟩ := member
    intro sorted hn
    have hmiddle : (sorted ++ (n, v) :: rest).Perm ((n, v) :: sorted ++ rest) :=
      List.perm_middle
    have hn' := (hmiddle.map (·.1)).nodup_iff.mp hn
    simp only [List.cons_append, List.map_cons, List.nodup_cons, List.map_append, List.mem_append,
      not_or] at hn'
    have hinsert := (insert_perm v hn'.1.1).append_right rest
    have hrest := ih (insert n v sorted) ((hinsert.map (·.1)).nodup_iff.mpr
      ((hmiddle.map (·.1)).nodup_iff.mp hn))
    exact hrest.trans (hinsert.trans hmiddle.symm)

/-- Sorting members of distinct names drops none and changes none. -/
theorem sortMembers_perm {members : List (String × Json)} (h : (members.map (·.1)).Nodup) :
    (sortMembers members).Perm members :=
  foldl_insert_perm members [] h

theorem field?_ofMembers {members : List (String × Json)} (h : (members.map (·.1)).Nodup)
    {name : String} {value : Json} (hm : (name, value) ∈ members) :
    (ofMembers members).field? name = some value := by
  have hperm := sortMembers_perm h
  exact lookup_of_mem ((hperm.map (·.1)).nodup_iff.mpr h) (hperm.mem_iff.mpr hm)

end Json

end TemplateBench
