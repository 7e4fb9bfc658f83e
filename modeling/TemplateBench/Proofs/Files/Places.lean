import Mathlib.Data.List.Basic
import TemplateBench.Files.Tree
import TemplateBench.Proofs.Result
import TemplateBench.Proofs.Text.Lines

/-!
Where the paths of a tree lead.

* `FileTree.place`: the entries that are passed on the way along a path.
* `Path.join_join`: a path put behind two others is put behind the second of them first.
* `place_join_entry`: the name of an entry, put behind a path, leads into that entry of the folder
  where the path leads, and nowhere else.
* `node_place_wellNamed`: in a well-named tree every path leads to a well-named node.
-/
namespace TemplateBench
open Text

/-! ## Names -/

/-- A name that an entry of a folder may have: one step, which leads inward. -/
def IsEntryName (name : String) : Prop :=
  '/' ∉ name.toList ∧ name ≠ "" ∧ name ≠ "." ∧ name ≠ ".."

instance (name : String) : Decidable (IsEntryName name) :=
  inferInstanceAs (Decidable (_ ∧ _))

theorem IsEntryName.isAbsolute {name : String} (h : IsEntryName name) :
    (⟨name⟩ : Path).isAbsolute = false := by
  unfold Path.isAbsolute
  cases hc : name.toList with
  | nil => rfl
  | cons c rest =>
    have hne : c ≠ '/' := fun he => h.1 (by simp [hc, he])
    simpa using hne

mutual

/-- A tree in which every entry has a name that an entry may have. -/
def Node.WellNamed : Node → Prop
  | .file _ => True
  | .folder entries => EntriesWellNamed entries

def EntriesWellNamed : List (String × Node) → Prop
  | [] => True
  | (name, n) :: rest => IsEntryName name ∧ n.WellNamed ∧ EntriesWellNamed rest

end

theorem EntriesWellNamed.of_mem {entries : List (String × Node)} (h : EntriesWellNamed entries)
    {e : String × Node} (he : e ∈ entries) : IsEntryName e.1 ∧ e.2.WellNamed := by
  induction entries with
  | nil => cases he
  | cons first rest ih =>
    obtain ⟨name, n⟩ := first
    rw [EntriesWellNamed] at h
    obtain ⟨hname, hn, hrest⟩ := h
    rcases List.mem_cons.mp he with rfl | he
    · exact ⟨hname, hn⟩
    · exact ih hrest he

theorem EntriesWellNamed.of_lookup {entries : List (String × Node)} (h : EntriesWellNamed entries)
    {name : String} {n : Node} (hl : entries.lookup name = some n) : n.WellNamed := by
  obtain ⟨_, _, rfl, _⟩ := List.lookup_eq_some_iff.mp hl
  exact (h.of_mem (e := (name, n)) (by simp)).2

/-! ## Joining -/

namespace Path

/-- What stands between a path and one that is put behind it. -/
def joint (base : Path) : List Char :=
  if base.text.toList.getLast?.all (· == '/') then [] else ['/']

variable {p folder : Path}

theorem join_of_isAbsolute (h : p.isAbsolute = true) (base : Path) : base.join p = p := by
  simp [join, h]

theorem toList_join (base : Path) (h : p.isAbsolute = false) :
    (base.join p).text.toList = base.text.toList ++ base.joint ++ p.text.toList := by
  unfold join joint
  rw [h]
  by_cases hb : base.text.toList.getLast?.all (· == '/') = true <;> simp [hb]

theorem join_nil (base : Path) (h : folder.text.toList = []) :
    (base.join folder).joint = [] := by
  have hrelative : folder.isAbsolute = false := by simp [isAbsolute, h]
  rw [joint, toList_join base hrelative, h, List.append_nil, joint]
  by_cases hb : base.text.toList.getLast?.all (· == '/') = true <;> simp [hb]

/-- A path in front of two others is put in front of the first of them. -/
theorem join_join (base folder : Path) (h : p.isAbsolute = false) :
    base.join (folder.join p) = (base.join folder).join p := by
  have hhead : (folder.join p).isAbsolute = folder.isAbsolute := by
    unfold isAbsolute
    rw [toList_join folder h]
    cases hf : folder.text.toList with
    | nil => simpa [joint, hf, isAbsolute] using h
    | cons c rest => rfl
  by_cases hf : folder.isAbsolute = true
  · rw [join_of_isAbsolute (hhead.trans hf), join_of_isAbsolute hf]
  · have hf : folder.isAbsolute = false := by simpa using hf
    have hjoint : (base.join folder).joint = folder.joint := by
      by_cases hnil : folder.text.toList = []
      · rw [join_nil base hnil, joint, hnil]
        rfl
      · unfold joint
        rw [toList_join base hf, List.getLast?_append_of_ne_nil _ hnil]
    have htext : (base.join (folder.join p)).text.toList = ((base.join folder).join p).text.toList := by
      rw [toList_join base (hhead.trans hf), toList_join folder h, toList_join _ h,
        toList_join base hf, hjoint]
      simp [List.append_assoc]
    exact congrArg Path.mk (String.toList_inj.mp htext)

end Path

namespace FileTree

/-! ## Walking -/

theorem walk_append (root : Node) (xs ys : List (List Char)) :
    ∀ trail, walk root trail (xs ++ ys) = walk root trail xs >>= fun trail => walk root trail ys := by
  induction xs with
  | nil => exact fun trail => rfl
  | cons step rest ih =>
    intro trail
    rw [List.cons_append, walk, walk]
    split
    · rfl
    · split
      · exact ih trail
      · split
        · exact ih trail.tail
        · split
          · exact ih _
          · rfl

/-- One step that leads inward. -/
theorem walk_entry {root : Node} {trail inside : Trail} {name : String} (hn : IsEntryName name)
    (h : walk root trail [name.toList] = .ok inside) :
    ∃ entries n, trail.node root = .folder entries ∧ entries.lookup name = some n ∧
      inside = (name, n) :: trail := by
  obtain ⟨_, hempty, hdot, hdots⟩ := hn
  have hbusy : Path.isIdle name.toList = false := by
    have hpoint : name.toList ≠ ['.'] := fun he => hdot (String.toList_inj.mp he)
    simp [Path.isIdle, hempty, hpoint]
  have hinward : name.toList ≠ ['.', '.'] := fun he => hdots (String.toList_inj.mp he)
  rw [walk] at h
  cases hnode : trail.node root with
  | file content => simp [hnode] at h
  | folder entries =>
    cases hl : entries.lookup name with
    | none => simp [hnode, hbusy, hinward, hl] at h
    | some n =>
      simp only [hnode, hbusy, hinward, String.ofList_toList, hl, walk] at h
      cases h
      exact ⟨entries, n, rfl, hl, rfl⟩

/-! ## Places -/

/-- Where a path leads: the entries passed on the way, the last one first. The empty path leads to
the current folder. -/
def place (t : FileTree) (p : Path) : Except FileError Trail := walk t.root [] (t.steps p)

theorem place_of_follow {t : FileTree} {p : Path} {trail : Trail} (h : t.follow p = .ok trail) :
    t.place p = .ok trail := by
  unfold follow at h
  split at h
  · cases h
  · exact h

/-- Behind a path the name of an entry is one step more, perhaps in the place of an empty one. -/
theorem splitOn_join_entry {name : String} (hn : IsEntryName name) (base : Path) :
    ∃ steps, splitOn '/' (base.join ⟨name⟩).text.toList = steps ++ [name.toList] ∧
      (splitOn '/' base.text.toList = steps ∨ splitOn '/' base.text.toList = steps ++ [[]]) := by
  have hname := splitOn_of_not_mem hn.1
  rw [Path.toList_join base hn.isAbsolute, Path.joint]
  rcases List.eq_nil_or_concat base.text.toList with hb | ⟨front, c, hb⟩
  · exact ⟨[], by simp [hb, hname], by simp [hb, splitOn]⟩
  · by_cases hc : c = '/'
    · refine ⟨splitOn '/' front, ?_, .inr ?_⟩
      · simp [hb, hc, splitOn_append, hname]
      · simp [hb, hc, splitOn_append, splitOn]
    · have hjoint : base.text.toList.getLast?.all (· == '/') = false := by simp [hb, hc]
      refine ⟨splitOn '/' base.text.toList, ?_, .inl rfl⟩
      simp [hjoint, splitOn_append, hname]

/-- **Entries.** The name of an entry behind a path leads into this entry of the folder where the
path leads, and nowhere else. -/
theorem place_join_entry {t : FileTree} {folder : Path} {name : String} (hn : IsEntryName name)
    {inside : Trail} (h : t.place (folder.join ⟨name⟩) = .ok inside) :
    ∃ outer entries n, t.place folder = .ok outer ∧ outer.node t.root = .folder entries ∧
      entries.lookup name = some n ∧ inside = (name, n) :: outer := by
  obtain ⟨inward, hinward, hfolder⟩ := splitOn_join_entry hn (t.current.join folder)
  rw [place, steps, Path.join_join t.current folder hn.isAbsolute, hinward, walk_append] at h
  obtain ⟨outer, houter, hlast⟩ := bind_eq_ok_iff.mp h
  obtain ⟨entries, n, hnode, hl, rfl⟩ := walk_entry hn hlast
  refine ⟨outer, entries, n, ?_, hnode, hl, rfl⟩
  rw [place, steps]
  rcases hfolder with hfolder | hfolder
  · rw [hfolder, houter]
  · -- The path ends in a slash, and the empty step after it leads nowhere.
    rw [hfolder, walk_append, houter]
    simp [bind, Except.bind, walk, hnode, Path.isIdle]

/-! ## Well-named trees -/

theorem node_wellNamed {root : Node} (hroot : root.WellNamed) {trail : Trail}
    (h : ∀ e ∈ trail, e.2.WellNamed) : (trail.node root).WellNamed := by
  cases trail with
  | nil => exact hroot
  | cons e rest => exact h e (by simp)

theorem walk_wellNamed {root : Node} (hroot : root.WellNamed) (path : List (List Char)) :
    ∀ {trail inside : Trail}, (∀ e ∈ trail, e.2.WellNamed) → walk root trail path = .ok inside →
      ∀ e ∈ inside, e.2.WellNamed := by
  induction path with
  | nil =>
    intro trail inside htrail h
    cases h
    exact htrail
  | cons step rest ih =>
    intro trail inside htrail h
    rw [walk] at h
    split at h
    · cases h
    · rename_i entries hnode
      split at h
      · exact ih htrail h
      · split at h
        · exact ih (fun e he => htrail e (List.mem_of_mem_tail he)) h
        · split at h
          · rename_i n hl
            have hfolder : (Node.folder entries).WellNamed := hnode ▸ node_wellNamed hroot htrail
            rw [Node.WellNamed] at hfolder
            refine ih ?_ h
            rintro e he
            rcases List.mem_cons.mp he with rfl | he
            · exact hfolder.of_lookup hl
            · exact htrail e he
          · cases h

theorem node_place_wellNamed {t : FileTree} (ht : t.root.WellNamed) {p : Path} {trail : Trail}
    (h : t.place p = .ok trail) : (trail.node t.root).WellNamed :=
  node_wellNamed ht (walk_wellNamed ht (t.steps p) (fun e he => absurd he (by simp)) h)

/-! ## Questions -/

theorem place_of_node {t : FileTree} {p : Path} {n : Node} (h : t.node p = .ok n) :
    ∃ trail, t.place p = .ok trail ∧ trail.node t.root = n := by
  unfold node at h
  cases hf : t.follow p with
  | error e => rw [hf] at h; cases h
  | ok trail =>
    rw [hf] at h
    cases h
    exact ⟨trail, place_of_follow hf, rfl⟩

theorem place_of_isFile {t : FileTree} {p : Path} (h : t.isFile p = true) :
    ∃ trail content, t.place p = .ok trail ∧ trail.node t.root = .file content := by
  unfold isFile at h
  split at h
  · rename_i content hnode
    obtain ⟨trail, htrail, hn⟩ := place_of_node hnode
    exact ⟨trail, content, htrail, hn⟩
  · cases h

/-- A folder of a well-named tree lists names of entries. -/
theorem isEntryName_of_list {t : FileTree} (ht : t.root.WellNamed) {p : Path} {names : List String}
    (h : t.list p = .ok names) {name : String} (hm : name ∈ names) : IsEntryName name := by
  unfold list at h
  split at h
  · rename_i entries hnode
    cases h
    obtain ⟨trail, htrail, hn⟩ := place_of_node hnode
    have hfolder : (Node.folder entries).WellNamed := hn ▸ node_place_wellNamed ht htrail
    rw [Node.WellNamed] at hfolder
    obtain ⟨e, he, rfl⟩ := List.mem_map.mp hm
    exact (hfolder.of_mem he).1
  · cases h
  · cases h

end FileTree

end TemplateBench
