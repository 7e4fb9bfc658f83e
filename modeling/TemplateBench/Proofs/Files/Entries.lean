import Mathlib.Data.List.Nodup
import TemplateBench.Proofs.Files.Places

/-!
The entries of a folder.

* `IsListing`: names that entries may have, each of them once, in any order.
* `node_join_entry`: behind the path of a folder, the name of an entry leads to that entry, and any
  other name to nothing.
* `isFile_join_iff`, `isFolder_join_iff`: so what a name behind the path leads to can be read off
  the listing.
-/
namespace TemplateBench
open Text

/-! ## Listings -/

structure IsListing (entries : List (String × Node)) : Prop where
  named : ∀ e ∈ entries, IsEntryName e.1
  distinct : (entries.map (·.1)).Nodup

namespace IsListing

variable {entries entries' : List (String × Node)} {name : String} {n : Node}

theorem perm (h : IsListing entries) (hperm : entries'.Perm entries) : IsListing entries' where
  named e he := h.named e (hperm.mem_iff.mp he)
  distinct := (hperm.map _).nodup_iff.mpr h.distinct

/-- As every name is there once, the entry that is looked up is the one with that name. -/
theorem lookup_eq_some_iff (h : IsListing entries) :
    entries.lookup name = some n ↔ (name, n) ∈ entries := by
  constructor
  · intro hl
    obtain ⟨front, rest, rfl, -⟩ := List.lookup_eq_some_iff.mp hl
    simp
  · intro hm
    obtain ⟨front, rest, rfl⟩ := List.append_of_mem hm
    refine List.lookup_eq_some_iff.mpr ⟨front, rest, rfl, fun e he => ?_⟩
    have hdistinct := h.distinct
    rw [List.map_append, List.map_cons, List.nodup_append] at hdistinct
    have hne : e.1 ≠ name := hdistinct.2.2 e.1 (List.mem_map_of_mem he) name (by simp)
    simpa using hne.symm

theorem mem_unique (h : IsListing entries) {n' : Node} (hn : (name, n) ∈ entries)
    (hn' : (name, n') ∈ entries) : n = n' :=
  Option.some.inj ((h.lookup_eq_some_iff.mpr hn).symm.trans (h.lookup_eq_some_iff.mpr hn'))

end IsListing

namespace FileTree

variable {t : FileTree} {folder : Path} {entries : List (String × Node)} {name : String} {n : Node}

/-! ## Behind the path of a folder -/

theorem follow_of_ne {p : Path} (h : p.text ≠ "") : t.follow p = t.place p := if_neg h

theorem join_ne_empty (hn : IsEntryName name) : (folder.join ⟨name⟩).text ≠ "" := by
  intro h
  have htext := Path.toList_join folder hn.isAbsolute
  rw [h] at htext
  have hname : name.toList = [] := (List.append_eq_nil_iff.mp htext.symm).2
  exact hn.2.1 (String.toList_inj.mp hname)

theorem walk_step {root : Node} {trail : Trail} (hn : IsEntryName name)
    (hnode : trail.node root = .folder entries) (hl : entries.lookup name = some n) :
    walk root trail [name.toList] = .ok ((name, n) :: trail) := by
  obtain ⟨-, hempty, hdot, hdots⟩ := hn
  have hpoint : name.toList ≠ ['.'] := fun he => hdot (String.toList_inj.mp he)
  have hbusy : Path.isIdle name.toList = false := by simp [Path.isIdle, hempty, hpoint]
  have hinward : name.toList ≠ ['.', '.'] := fun he => hdots (String.toList_inj.mp he)
  simp [walk, hnode, hbusy, hinward, hl]

/-- The converse of `place_join_entry`. -/
theorem place_join_of_lookup (hn : IsEntryName name) {outer : Trail}
    (houter : t.place folder = .ok outer) (hnode : outer.node t.root = .folder entries)
    (hl : entries.lookup name = some n) :
    t.place (folder.join ⟨name⟩) = .ok ((name, n) :: outer) := by
  obtain ⟨inward, hinward, hfolder⟩ := splitOn_join_entry hn (t.current.join folder)
  have hreach : walk t.root [] inward = .ok outer := by
    rcases hfolder with hfolder | hfolder
    · rwa [place, steps, hfolder] at houter
    · -- The path ends in a slash, and the empty step after it leads nowhere.
      rw [place, steps, hfolder, walk_append] at houter
      obtain ⟨before, hbefore, hlast⟩ := bind_eq_ok_iff.mp houter
      rw [walk] at hlast
      split at hlast
      · cases hlast
      · simp only [Path.isIdle, beq_self_eq_true, Bool.true_or, if_true, walk] at hlast
        cases hlast
        exact hbefore
  rw [place, steps, Path.join_join t.current folder hn.isAbsolute, hinward, walk_append, hreach]
  exact walk_step hn hnode hl

theorem node_join_entry (hfolder : t.node folder = .ok (.folder entries)) (hn : IsEntryName name) :
    t.node (folder.join ⟨name⟩) = .ok n ↔ entries.lookup name = some n := by
  obtain ⟨outer, houter, hnode⟩ := place_of_node hfolder
  rw [node, follow_of_ne (join_ne_empty hn)]
  constructor
  · intro h
    cases hplace : t.place (folder.join ⟨name⟩) with
    | error e => rw [hplace] at h; cases h
    | ok inside =>
      obtain ⟨outer', entries', n', houter', hnode', hl, rfl⟩ := place_join_entry hn hplace
      cases houter.symm.trans houter'
      cases hnode.symm.trans hnode'
      rw [hplace] at h
      cases h
      exact hl
  · intro hl
    rw [place_join_of_lookup hn houter hnode hl]
    rfl

/-- Nothing lies behind the path of what is no folder. -/
theorem node_join_error (hn : IsEntryName name) (hne : folder.text ≠ "")
    (h : ∀ entries, t.node folder ≠ .ok (.folder entries)) :
    t.node (folder.join ⟨name⟩) ≠ .ok n := by
  intro hin
  obtain ⟨inside, hinside, -⟩ := place_of_node hin
  obtain ⟨outer, entries, n', houter, hnode, -, -⟩ := place_join_entry hn hinside
  refine h entries ?_
  rw [node, follow_of_ne hne, houter]
  exact congrArg Except.ok hnode

/-- What a folder holds; what is no folder holds nothing. -/
def held (t : FileTree) (p : Path) : List (String × Node) :=
  match t.node p with
  | .ok (.folder entries) => entries
  | _ => []

theorem held_of_node (h : t.node folder = .ok (.folder entries)) : t.held folder = entries := by
  rw [held, h]

theorem held_of_no_folder (h : ∀ entries, t.node folder ≠ .ok (.folder entries)) :
    t.held folder = [] := by
  unfold held
  split
  · rename_i entries hnode
    exact absurd hnode (h entries)
  · rfl

/-! ## Files and folders in a folder -/

theorem isFile_iff {p : Path} : t.isFile p = true ↔ ∃ content, t.node p = .ok (.file content) := by
  unfold isFile
  split
  · rename_i content h
    simp [h]
  · rename_i h
    simpa using h

theorem isFolder_iff {p : Path} :
    t.isFolder p = true ↔ ∃ entries, t.node p = .ok (.folder entries) := by
  unfold isFolder
  split
  · rename_i inner h
    simp [h]
  · rename_i h
    simpa using h

theorem list_eq_ok_iff {p : Path} {names : List String} :
    t.list p = .ok names ↔ ∃ entries, t.node p = .ok (.folder entries) ∧ names = entries.map (·.1) := by
  unfold list
  split
  · rename_i entries h
    simp [h, eq_comm]
  · rename_i content h
    simp [h]
  · rename_i e h
    simp [h]

theorem isFile_join_iff (hfolder : t.node folder = .ok (.folder entries)) (h : IsListing entries)
    (hn : IsEntryName name) :
    t.isFile (folder.join ⟨name⟩) = true ↔ ∃ content, (name, .file content) ∈ entries := by
  simp only [isFile_iff, node_join_entry hfolder hn, h.lookup_eq_some_iff]

theorem isFolder_join_iff (hfolder : t.node folder = .ok (.folder entries)) (h : IsListing entries)
    (hn : IsEntryName name) :
    t.isFolder (folder.join ⟨name⟩) = true ↔ ∃ inner, (name, .folder inner) ∈ entries := by
  simp only [isFolder_iff, node_join_entry hfolder hn, h.lookup_eq_some_iff]

end FileTree

end TemplateBench
