import Mathlib.Logic.Relation
import TemplateBench.Proofs.Files.Entries
import TemplateBench.Proofs.Suite.Confined
import TemplateBench.Proofs.Text.Sorting

/-!
Which fixture is located.

* `HoldsFixture`: a folder of the vendor holds a file with the extension of fixtures.
* `Chosen`: of the folders near the command the one named like it, or else the first by name; in it
  the first file by name.
* `locate_eq_some_iff`, `locate_isSome_iff`: the chosen file is located, and there is one if some
  folder near the command holds a fixture.
* `Alteration`: listings in another order, folders far from the command, other files. None of these
  changes what is held near the command (`Alteration.holds_iff`).
* `locate_least` puts these together.
-/
namespace TemplateBench.Fixtures
open Text

variable {f : Fixtures} {t t' : FileTree} {entries entries' inner : List (String × Node)}
  {vendorFolder folderPath p : Path} {vendor command folder file : String}

/-! ## Candidates -/

/-- One of two names contains the other. -/
def Near (folder command : String) : Prop :=
  folder.toList <:+: command.toList ∨ command.toList <:+: folder.toList

instance (folder command : String) : Decidable (Near folder command) :=
  inferInstanceAs (Decidable (_ ∨ _))

/-- A folder among the entries holds a file with the extension of fixtures. -/
def HoldsFixture (f : Fixtures) (entries : List (String × Node)) (folder file : String) : Prop :=
  ∃ inner content, (folder, .folder inner) ∈ entries ∧ (file, .file content) ∈ inner ∧
    ('.' :: f.extension.toList) <:+ file.toList

/-- The file is the first one that the folder holds. -/
structure First (f : Fixtures) (entries : List (String × Node)) (folder file : String) : Prop where
  holds : f.HoldsFixture entries folder file
  least : ∀ other, f.HoldsFixture entries folder other → file ≤ other

/-- The folder and the file that a command chooses. -/
structure Chosen (f : Fixtures) (entries : List (String × Node)) (command folder file : String) :
    Prop where
  near : Near folder command
  first : f.First entries folder file
  preferred : folder = command ∨ (∀ other, ¬ f.HoldsFixture entries command other) ∧
    ∀ rival other, Near rival command → f.HoldsFixture entries rival other → folder ≤ rival

/-- The listing of the folder of a vendor and the listings of the folders in it. -/
structure IsVendorListing (entries : List (String × Node)) : Prop where
  listing : IsListing entries
  inside : ∀ name inner, (name, .folder inner) ∈ entries → IsListing inner

theorem near_self (command : String) : Near command command := .inl List.infix_rfl

theorem overlaps_iff : overlaps folder command = true ↔ Near folder command := by
  rw [overlaps, Bool.or_eq_true, contains_iff, contains_iff, Near]

theorem isFixtureName_iff :
    f.isFixtureName file = true ↔ ('.' :: f.extension.toList) <:+ file.toList := endsWith_iff

/-- A name that a folder does not list is the name of nothing that holds a fixture. -/
theorem holds_iff_of_mem (hl : IsListing entries) (hfolder : (folder, .folder inner) ∈ entries) :
    f.HoldsFixture entries folder file ↔
      (∃ content, (file, .file content) ∈ inner) ∧ ('.' :: f.extension.toList) <:+ file.toList := by
  constructor
  · rintro ⟨inner', content, hfolder', hfile, hsuffix⟩
    cases hl.mem_unique hfolder hfolder'
    exact ⟨⟨content, hfile⟩, hsuffix⟩
  · rintro ⟨⟨content, hfile⟩, hsuffix⟩
    exact ⟨inner, content, hfolder, hfile, hsuffix⟩

/-! ## The first fixture of a folder -/

theorem sortedNames_increasing (hl : IsListing entries) :
    (sortedNames (entries.map (·.1))).Pairwise fun a b => id a < id b :=
  pairwise_lt_mergeSort (by simpa using hl.distinct)

theorem mem_sortedNames {names : List String} {name : String} :
    name ∈ sortedNames names ↔ name ∈ names := List.mem_mergeSort

theorem firstIn_of_node (hnode : t.node folderPath = .ok (.folder inner)) :
    f.firstIn t folderPath = ((sortedNames (inner.map (·.1))).find? fun name =>
      t.isFile (folderPath.join ⟨name⟩) && f.isFixtureName name).map
        fun name => folderPath.join ⟨name⟩ := by
  rw [firstIn, FileTree.list_eq_ok_iff.mpr ⟨inner, hnode, rfl⟩]

theorem firstIn_of_no_folder (h : ∀ inner, t.node folderPath ≠ .ok (.folder inner)) :
    f.firstIn t folderPath = none := by
  unfold firstIn
  split
  · rfl
  · rename_i names hnames
    obtain ⟨inner, hnode, -⟩ := FileTree.list_eq_ok_iff.mp hnames
    exact absurd hnode (h inner)

/-- What the search in a folder looks for. -/
theorem isFixture_iff (hnode : t.node folderPath = .ok (.folder inner)) (hl : IsListing inner)
    (hn : IsEntryName file) :
    (t.isFile (folderPath.join ⟨file⟩) && f.isFixtureName file) = true ↔
      (∃ content, (file, .file content) ∈ inner) ∧ ('.' :: f.extension.toList) <:+ file.toList := by
  rw [Bool.and_eq_true, FileTree.isFile_join_iff hnode hl hn, isFixtureName_iff]

section InVendor

variable (hvendor : t.node vendorFolder = .ok (.folder entries)) (hl : IsVendorListing entries)

include hvendor hl

theorem firstIn_eq_some_iff (hn : IsEntryName folder) :
    f.firstIn t (vendorFolder.join ⟨folder⟩) = some p ↔
      ∃ file, f.First entries folder file ∧ p = (vendorFolder.join ⟨folder⟩).join ⟨file⟩ := by
  by_cases hfolder : ∃ inner, (folder, .folder inner) ∈ entries
  · obtain ⟨inner, hfolder⟩ := hfolder
    have hinner := hl.inside _ _ hfolder
    have hnode : t.node (vendorFolder.join ⟨folder⟩) = .ok (.folder inner) :=
      (FileTree.node_join_entry hvendor hn).mpr (hl.listing.lookup_eq_some_iff.mpr hfolder)
    have hholds {file : String} : f.HoldsFixture entries folder file ↔
        (∃ content, (file, .file content) ∈ inner) ∧
          ('.' :: f.extension.toList) <:+ file.toList := holds_iff_of_mem hl.listing hfolder
    have hnamed {name : String} (hm : name ∈ sortedNames (inner.map (·.1))) : IsEntryName name := by
      obtain ⟨e, he, rfl⟩ := List.mem_map.mp (mem_sortedNames.mp hm)
      exact hinner.named e he
    have hlisted {name : String} (h : f.HoldsFixture entries folder name) :
        name ∈ sortedNames (inner.map (·.1)) := by
      obtain ⟨⟨content, hm⟩, -⟩ := hholds.mp h
      exact mem_sortedNames.mpr (List.mem_map_of_mem hm)
    rw [firstIn_of_node hnode, Option.map_eq_some_iff]
    simp only [find?_eq_some_iff_first (sortedNames_increasing hinner), id]
    constructor
    · rintro ⟨file, ⟨hm, hfile, hfirst⟩, rfl⟩
      have hheld := hholds.mpr ((isFixture_iff hnode hinner (hnamed hm)).mp hfile)
      refine ⟨file, ⟨hheld, fun other hother => String.not_lt.mp fun hlt => ?_⟩, rfl⟩
      have hm' := hlisted hother
      have := hfirst other hm' hlt
      rw [(isFixture_iff hnode hinner (hnamed hm')).mpr (hholds.mp hother)] at this
      cases this
    · rintro ⟨file, ⟨hheld, hleast⟩, rfl⟩
      have hm := hlisted hheld
      refine ⟨file, ⟨hm, (isFixture_iff hnode hinner (hnamed hm)).mpr (hholds.mp hheld), ?_⟩, rfl⟩
      intro other hother hlt
      rw [← Bool.not_eq_true, isFixture_iff hnode hinner (hnamed hother)]
      exact fun h => String.not_lt.mpr (hleast other (hholds.mpr h)) hlt
  · have hnone : f.firstIn t (vendorFolder.join ⟨folder⟩) = none := by
      refine firstIn_of_no_folder fun inner h => hfolder ⟨inner, ?_⟩
      exact hl.listing.lookup_eq_some_iff.mp ((FileTree.node_join_entry hvendor hn).mp h)
    rw [hnone]
    refine iff_of_false (by simp) ?_
    rintro ⟨file, ⟨⟨inner, content, hm, -, -⟩, -⟩, -⟩
    exact hfolder ⟨inner, hm⟩

/-- A folder that holds a fixture has a first one. -/
theorem firstIn_eq_none_iff (hn : IsEntryName folder) :
    f.firstIn t (vendorFolder.join ⟨folder⟩) = none ↔
      ∀ file, ¬ f.HoldsFixture entries folder file := by
  constructor
  · rintro hnone file ⟨inner, content, hfolder, hfile, hsuffix⟩
    have hinner := hl.inside _ _ hfolder
    have hnode : t.node (vendorFolder.join ⟨folder⟩) = .ok (.folder inner) :=
      (FileTree.node_join_entry hvendor hn).mpr (hl.listing.lookup_eq_some_iff.mpr hfolder)
    rw [firstIn_of_node hnode, Option.map_eq_none_iff, List.find?_eq_none] at hnone
    refine hnone file (mem_sortedNames.mpr (List.mem_map_of_mem hfile)) ?_
    exact (isFixture_iff hnode hinner (hinner.named _ hfile)).mpr ⟨⟨content, hfile⟩, hsuffix⟩
  · intro hempty
    refine Option.eq_none_iff_forall_ne_some.mpr fun p h => ?_
    obtain ⟨file, hfirst, -⟩ := (firstIn_eq_some_iff hvendor hl hn).mp h
    exact hempty file hfirst.holds

/-- What a folder of the vendor offers for a command. -/
theorem offer_eq_some_iff {name : String} (hname : IsEntryName name) :
    (if t.isFolder (vendorFolder.join ⟨name⟩) && overlaps name command then
        f.firstIn t (vendorFolder.join ⟨name⟩) else none) = some p ↔
      Near name command ∧
        ∃ file, f.First entries name file ∧ p = (vendorFolder.join ⟨name⟩).join ⟨file⟩ := by
  rw [← firstIn_eq_some_iff hvendor hl hname, ← overlaps_iff]
  by_cases hover : overlaps name command = true
  · have hfolder (h : f.firstIn t (vendorFolder.join ⟨name⟩) = some p) :
        t.isFolder (vendorFolder.join ⟨name⟩) = true := by
      obtain ⟨file, hfirst, -⟩ := (firstIn_eq_some_iff hvendor hl hname).mp h
      obtain ⟨inner, content, hm, -, -⟩ := hfirst.holds
      exact (FileTree.isFolder_join_iff hvendor hl.listing hname).mpr ⟨inner, hm⟩
    constructor
    · intro h
      split at h
      · exact ⟨hover, h⟩
      · cases h
    · rintro ⟨-, h⟩
      rw [if_pos (by rw [hfolder h, hover]; rfl), h]
  · simp [hover]

theorem offer_eq_none_iff {name : String} (hname : IsEntryName name) :
    (if t.isFolder (vendorFolder.join ⟨name⟩) && overlaps name command then
        f.firstIn t (vendorFolder.join ⟨name⟩) else none) = none ↔
      (Near name command → ∀ file, ¬ f.HoldsFixture entries name file) := by
  rw [← firstIn_eq_none_iff hvendor hl hname, Option.eq_none_iff_forall_ne_some,
    Option.eq_none_iff_forall_ne_some]
  simp only [ne_eq, offer_eq_some_iff hvendor hl hname, firstIn_eq_some_iff hvendor hl hname,
    not_and]
  exact ⟨fun h hnear p => h p hnear, fun h p hnear => h hnear p⟩

/-! ## The first folder near a command -/

theorem nearby_eq_some_iff :
    f.nearby t vendorFolder command = some p ↔ ∃ folder file, Near folder command ∧
      f.First entries folder file ∧ p = (vendorFolder.join ⟨folder⟩).join ⟨file⟩ ∧
      ∀ rival other, Near rival command → f.HoldsFixture entries rival other → folder ≤ rival := by
  have hnamed {name : String} (hm : name ∈ sortedNames (entries.map (·.1))) : IsEntryName name := by
    obtain ⟨e, he, rfl⟩ := List.mem_map.mp (mem_sortedNames.mp hm)
    exact hl.listing.named e he
  have hlisted {name other : String} (h : f.HoldsFixture entries name other) :
      name ∈ sortedNames (entries.map (·.1)) := by
    obtain ⟨inner, content, hm, -, -⟩ := h
    exact mem_sortedNames.mpr (List.mem_map_of_mem hm)
  rw [nearby, FileTree.list_eq_ok_iff.mpr ⟨entries, hvendor, rfl⟩]
  simp only [findSome?_eq_some_iff_first (sortedNames_increasing hl.listing), id]
  constructor
  · rintro ⟨folder, hm, hoffer, hfirst⟩
    obtain ⟨hnear, file, hfile, rfl⟩ := (offer_eq_some_iff hvendor hl (hnamed hm)).mp hoffer
    refine ⟨folder, file, hnear, hfile, rfl, fun rival other hrival hother => ?_⟩
    refine String.not_lt.mp fun hlt => ?_
    have hm' := hlisted hother
    exact (offer_eq_none_iff hvendor hl (hnamed hm')).mp (hfirst rival hm' hlt) hrival other hother
  · rintro ⟨folder, file, hnear, hfile, rfl, hleast⟩
    have hm := hlisted hfile.holds
    refine ⟨folder, hm, (offer_eq_some_iff hvendor hl (hnamed hm)).mpr ⟨hnear, file, hfile, rfl⟩, ?_⟩
    intro rival hrival hlt
    refine (offer_eq_none_iff hvendor hl (hnamed hrival)).mpr fun hnear' other hother => ?_
    exact String.not_lt.mpr (hleast rival other hnear' hother) hlt

theorem nearby_eq_none_iff :
    f.nearby t vendorFolder command = none ↔
      ∀ folder file, Near folder command → ¬ f.HoldsFixture entries folder file := by
  constructor
  · rintro hnone folder file hnear hheld
    have hm : folder ∈ entries.map (·.1) := by
      obtain ⟨inner, content, hm, -, -⟩ := hheld
      exact List.mem_map_of_mem hm
    obtain ⟨e, he, rfl⟩ := List.mem_map.mp hm
    rw [nearby, FileTree.list_eq_ok_iff.mpr ⟨entries, hvendor, rfl⟩] at hnone
    have hoffer := List.findSome?_eq_none_iff.mp hnone e.1 (mem_sortedNames.mpr hm)
    exact (offer_eq_none_iff hvendor hl (hl.listing.named e he)).mp hoffer hnear file hheld
  · intro hempty
    refine Option.eq_none_iff_forall_ne_some.mpr fun p h => ?_
    obtain ⟨folder, file, hnear, hfile, -⟩ := (nearby_eq_some_iff hvendor hl).mp h
    exact hempty folder file hnear hfile.holds

end InVendor

/-! ## The located fixture -/

section Located

variable (hl : IsVendorListing (t.held (f.root.join ⟨vendor⟩)))
  (hne : (f.root.join ⟨vendor⟩).text ≠ "") (hn : IsEntryName command)
  (hb : isBlankText command = false)

include hne hn hb in
/-- Without a folder of the vendor there is nothing to locate. -/
theorem locate_of_no_vendor (h : ∀ entries, t.node (f.root.join ⟨vendor⟩) ≠ .ok (.folder entries)) :
    f.locate t vendor command = none := by
  have hexact : f.firstIn t ((f.root.join ⟨vendor⟩).join ⟨command⟩) = none :=
    firstIn_of_no_folder fun inner => FileTree.node_join_error hn hne h
  have hnear : f.nearby t (f.root.join ⟨vendor⟩) command = none := by
    unfold nearby
    split
    · rfl
    · rename_i names hnames
      obtain ⟨held, hnode, -⟩ := FileTree.list_eq_ok_iff.mp hnames
      exact absurd hnode (h held)
  rw [locate_of_not_blank hb, hexact, hnear, Option.or_none]

include hl hne hn hb

theorem locate_eq_some_iff :
    f.locate t vendor command = some p ↔ ∃ folder file,
      f.Chosen (t.held (f.root.join ⟨vendor⟩)) command folder file ∧
      p = ((f.root.join ⟨vendor⟩).join ⟨folder⟩).join ⟨file⟩ := by
  by_cases hvendor : ∃ entries, t.node (f.root.join ⟨vendor⟩) = .ok (.folder entries)
  · obtain ⟨entries, hvendor⟩ := hvendor
    rw [FileTree.held_of_node hvendor] at hl ⊢
    rw [locate_of_not_blank hb, Option.or_eq_some_iff, firstIn_eq_some_iff hvendor hl hn,
      firstIn_eq_none_iff hvendor hl hn, nearby_eq_some_iff hvendor hl]
    constructor
    · rintro (⟨file, hfile, rfl⟩ | ⟨hempty, folder, file, hnear, hfile, rfl, hleast⟩)
      · exact ⟨command, file, ⟨near_self command, hfile, .inl rfl⟩, rfl⟩
      · exact ⟨folder, file, ⟨hnear, hfile, .inr ⟨hempty, hleast⟩⟩, rfl⟩
    · rintro ⟨folder, file, ⟨hnear, hfile, rfl | ⟨hempty, hleast⟩⟩, rfl⟩
      · exact .inl ⟨file, hfile, rfl⟩
      · exact .inr ⟨hempty, folder, file, hnear, hfile, rfl, hleast⟩
  · have hvendor := not_exists.mp hvendor
    rw [locate_of_no_vendor hne hn hb hvendor, FileTree.held_of_no_folder hvendor]
    refine iff_of_false (by simp) ?_
    rintro ⟨folder, file, hchosen, -⟩
    obtain ⟨inner, content, hm, -⟩ := hchosen.first.holds
    cases hm

theorem locate_isSome_iff :
    (f.locate t vendor command).isSome = true ↔ ∃ folder file, Near folder command ∧
      f.HoldsFixture (t.held (f.root.join ⟨vendor⟩)) folder file := by
  constructor
  · intro h
    obtain ⟨p, hp⟩ := Option.isSome_iff_exists.mp h
    obtain ⟨folder, file, hchosen, -⟩ := (locate_eq_some_iff hl hne hn hb).mp hp
    exact ⟨folder, file, hchosen.near, hchosen.first.holds⟩
  · rintro ⟨folder, file, hnear, hheld⟩
    by_cases hvendor : ∃ entries, t.node (f.root.join ⟨vendor⟩) = .ok (.folder entries)
    · obtain ⟨entries, hvendor⟩ := hvendor
      rw [FileTree.held_of_node hvendor] at hl hheld
      rw [Option.isSome_iff_ne_none, locate_of_not_blank hb, ne_eq, Option.or_eq_none_iff,
        nearby_eq_none_iff hvendor hl]
      exact fun h => h.2 folder file hnear hheld
    · rw [FileTree.held_of_no_folder (not_exists.mp hvendor)] at hheld
      obtain ⟨inner, content, hm, -⟩ := hheld
      cases hm

end Located

/-! ## What does not matter -/

/-- A change in a folder that keeps its fixtures. -/
inductive InsideAlteration (f : Fixtures) :
    List (String × Node) → List (String × Node) → Prop
  | order {xs ys : List (String × Node)} (h : xs.Perm ys) : InsideAlteration f xs ys
  | other {xs : List (String × Node)} (name : String) (n : Node)
      (h : ∀ content, n = .file content → ¬ ('.' :: f.extension.toList) <:+ name.toList) :
      InsideAlteration f xs ((name, n) :: xs)

/-- A change in the folder of a vendor that keeps the fixtures near a command: another order, a
folder far from the command or without a fixture, a file, or such a change in one of its folders. -/
inductive Alteration (f : Fixtures) (command : String) :
    List (String × Node) → List (String × Node) → Prop
  | order {xs ys : List (String × Node)} (h : xs.Perm ys) : Alteration f command xs ys
  | folder {xs : List (String × Node)} (name : String) (inner : List (String × Node))
      (h : Near name command → ∀ file content, (file, .file content) ∈ inner →
        ¬ ('.' :: f.extension.toList) <:+ file.toList) :
      Alteration f command xs ((name, .folder inner) :: xs)
  | file {xs : List (String × Node)} (name : String) (content : Option String) :
      Alteration f command xs ((name, .file content) :: xs)
  | inside {front back inner inner' : List (String × Node)} (name : String)
      (h : InsideAlteration f inner inner') :
      Alteration f command (front ++ (name, .folder inner) :: back)
        (front ++ (name, .folder inner') :: back)

theorem InsideAlteration.mem_iff {xs ys : List (String × Node)} (h : InsideAlteration f xs ys)
    {content : Option String} (hsuffix : ('.' :: f.extension.toList) <:+ file.toList) :
    (file, .file content) ∈ ys ↔ (file, .file content) ∈ xs := by
  cases h with
  | order h => exact h.mem_iff.symm
  | other name n h =>
    rw [List.mem_cons, or_iff_right]
    rintro ⟨⟩
    exact h content rfl hsuffix

/-- An alteration keeps what is held near the command. -/
theorem Alteration.holds_iff {xs ys : List (String × Node)} (h : f.Alteration command xs ys)
    (hnear : Near folder command) :
    f.HoldsFixture ys folder file ↔ f.HoldsFixture xs folder file := by
  cases h with
  | order h => simp only [HoldsFixture, h.mem_iff]
  | folder name inner h =>
    constructor
    · rintro ⟨inner', content, hm, hfile, hsuffix⟩
      rcases List.mem_cons.mp hm with heq | hm
      · cases heq
        exact absurd hsuffix (h hnear file content hfile)
      · exact ⟨inner', content, hm, hfile, hsuffix⟩
    · rintro ⟨inner', content, hm, hfile, hsuffix⟩
      exact ⟨inner', content, List.mem_cons_of_mem _ hm, hfile, hsuffix⟩
  | file name content => simp [HoldsFixture]
  | @inside front back inner inner' name h =>
    have hmem (held : List (String × Node)) :
        f.HoldsFixture (front ++ (name, .folder held) :: back) folder file ↔
        f.HoldsFixture (front ++ back) folder file ∨ folder = name ∧ ∃ content,
          (file, .file content) ∈ held ∧ ('.' :: f.extension.toList) <:+ file.toList := by
      simp only [HoldsFixture, List.mem_append, List.mem_cons, Prod.mk.injEq, Node.folder.injEq]
      constructor
      · rintro ⟨inner, content, hm | ⟨rfl, rfl⟩ | hm, hfile⟩
        · exact .inl ⟨inner, content, .inl hm, hfile⟩
        · exact .inr ⟨rfl, content, hfile⟩
        · exact .inl ⟨inner, content, .inr hm, hfile⟩
      · rintro (⟨inner, content, hm | hm, hfile⟩ | ⟨rfl, content, hfile⟩)
        · exact ⟨inner, content, .inl hm, hfile⟩
        · exact ⟨inner, content, .inr (.inr hm), hfile⟩
        · exact ⟨held, content, .inr (.inl ⟨rfl, rfl⟩), hfile⟩
    rw [hmem, hmem]
    have hfiles : (∃ content, (file, Node.file content) ∈ inner' ∧
          ('.' :: f.extension.toList) <:+ file.toList) ↔
        ∃ content, (file, Node.file content) ∈ inner ∧
          ('.' :: f.extension.toList) <:+ file.toList :=
      exists_congr fun content => and_congr_left fun hsuffix => h.mem_iff hsuffix
    rw [hfiles]

theorem holds_iff_of_alterations {xs ys : List (String × Node)}
    (h : Relation.ReflTransGen (f.Alteration command) xs ys) (hnear : Near folder command) :
    f.HoldsFixture ys folder file ↔ f.HoldsFixture xs folder file := by
  induction h with
  | refl => rfl
  | tail _ hstep ih => rw [hstep.holds_iff hnear, ih]

/-- What is chosen depends only on what is held near the command. -/
theorem Chosen.of_holds_iff {xs ys : List (String × Node)}
    (h : ∀ folder file, Near folder command →
      (f.HoldsFixture ys folder file ↔ f.HoldsFixture xs folder file))
    (hchosen : f.Chosen xs command folder file) : f.Chosen ys command folder file where
  near := hchosen.near
  first :=
    { holds := (h _ _ hchosen.near).mpr hchosen.first.holds
      least := fun other hother => hchosen.first.least other ((h _ _ hchosen.near).mp hother) }
  preferred := hchosen.preferred.imp_right fun ⟨hempty, hleast⟩ =>
    ⟨fun other hother => hempty other ((h _ _ (near_self command)).mp hother),
      fun rival other hnear hother => hleast rival other hnear ((h _ _ hnear).mp hother)⟩

/-- **Located fixtures.** If the command may be the name of an entry and is not blank, a fixture is
located if some folder of the vendor near the command holds one. The chosen folder is the one named
like the command if it holds one, and the first by name otherwise; the located file is the first by
name in it. No alteration of the folder of the vendor changes what is located. Only the empty path
is left out: it is the path of no folder, and yet that of a command behind it may be one. -/
theorem locate_least (hl : IsVendorListing (t.held (f.root.join ⟨vendor⟩)))
    (hne : (f.root.join ⟨vendor⟩).text ≠ "") (hn : IsEntryName command)
    (hb : isBlankText command = false) :
    ((f.locate t vendor command).isSome = true ↔ ∃ folder file, Near folder command ∧
      f.HoldsFixture (t.held (f.root.join ⟨vendor⟩)) folder file) ∧
    (∀ p, f.locate t vendor command = some p ↔ ∃ folder file,
      f.Chosen (t.held (f.root.join ⟨vendor⟩)) command folder file ∧
      p = ((f.root.join ⟨vendor⟩).join ⟨folder⟩).join ⟨file⟩) ∧
    (∀ t' : FileTree, IsVendorListing (t'.held (f.root.join ⟨vendor⟩)) →
      Relation.ReflTransGen (f.Alteration command) (t.held (f.root.join ⟨vendor⟩))
        (t'.held (f.root.join ⟨vendor⟩)) →
      f.locate t' vendor command = f.locate t vendor command) := by
  refine ⟨locate_isSome_iff hl hne hn hb, fun p => locate_eq_some_iff hl hne hn hb,
    fun t' hl' halter => Option.ext fun p => ?_⟩
  have hholds (folder file : String) (hnear : Near folder command) :
      f.HoldsFixture (t'.held (f.root.join ⟨vendor⟩)) folder file ↔
        f.HoldsFixture (t.held (f.root.join ⟨vendor⟩)) folder file :=
    holds_iff_of_alterations halter hnear
  rw [locate_eq_some_iff hl' hne hn hb, locate_eq_some_iff hl hne hn hb]
  constructor
  · rintro ⟨folder, file, hchosen, rfl⟩
    exact ⟨folder, file, hchosen.of_holds_iff fun _ _ hnear => (hholds _ _ hnear).symm, rfl⟩
  · rintro ⟨folder, file, hchosen, rfl⟩
    exact ⟨folder, file, hchosen.of_holds_iff hholds, rfl⟩

/-! ## Folders of VLANs -/

def vlanEntries : List (String × Node) :=
  [("show_vlan", .folder [("notes.txt", .file (some "n"))]),
    ("show_vlan_b", .folder [("y.raw", .file (some "y"))]),
    ("show_vlan_a", .folder [("x2.raw", .file (some "2")), ("x1.raw", .file (some "1"))])]

def vlanTree : FileTree where
  root := .folder [("tests", .folder [("cisco", .folder vlanEntries)])]

/-- The same folder with one more, which is far from the command, and in another order. -/
def clockTree : FileTree where
  root := .folder [("tests", .folder [("cisco", .folder
    (("show_clock", .folder [("c.raw", .file (some "c"))]) :: vlanEntries).reverse)])]

theorem vlanEntries_listing : IsVendorListing vlanEntries where
  listing := ⟨by decide, by decide⟩
  inside name inner hm := by
    simp only [vlanEntries, List.mem_cons, Prod.mk.injEq, Node.folder.injEq, List.not_mem_nil,
      or_false] at hm
    rcases hm with ⟨-, rfl⟩ | ⟨-, rfl⟩ | ⟨-, rfl⟩ <;> exact ⟨by decide, by decide⟩

theorem clockEntries_listing : IsVendorListing
    (("show_clock", .folder [("c.raw", .file (some "c"))]) :: vlanEntries).reverse where
  listing := ⟨by decide, by decide⟩
  inside name inner hm := by
    rw [List.mem_reverse, List.mem_cons, Prod.mk.injEq, Node.folder.injEq] at hm
    rcases hm with ⟨-, rfl⟩ | hm
    · exact ⟨by decide, by decide⟩
    · exact vlanEntries_listing.inside name inner hm

/-- The folder named like the command holds no fixture, and the next one by name holds two. -/
theorem chosen_vlan : sampleFixtures.Chosen vlanEntries "show_vlan" "show_vlan_a" "x1.raw" := by
  have hnone (file : String) : ¬ sampleFixtures.HoldsFixture vlanEntries "show_vlan" file := by
    have hfolder : ("show_vlan", .folder [("notes.txt", .file (some "n"))]) ∈ vlanEntries := by
      simp [vlanEntries]
    rw [holds_iff_of_mem vlanEntries_listing.listing hfolder]
    rintro ⟨⟨content, hm⟩, hsuffix⟩
    cases List.mem_singleton.mp hm
    exact absurd hsuffix (by decide)
  have hfiles {file : String} : sampleFixtures.HoldsFixture vlanEntries "show_vlan_a" file ↔
      (∃ content, (file, .file content) ∈
        [("x2.raw", .file (some "2")), ("x1.raw", Node.file (some "1"))]) ∧
      ('.' :: sampleFixtures.extension.toList) <:+ file.toList :=
    holds_iff_of_mem vlanEntries_listing.listing (by simp [vlanEntries])
  refine ⟨by decide, ⟨hfiles.mpr ⟨⟨some "1", by simp⟩, by decide⟩, fun other hother => ?least⟩,
    .inr ⟨hnone, fun rival other _ hother => ?rivals⟩⟩
  case least =>
    obtain ⟨⟨content, hm⟩, -⟩ := hfiles.mp hother
    simp only [List.mem_cons, Prod.mk.injEq, List.not_mem_nil, or_false] at hm
    rcases hm with ⟨rfl, -⟩ | ⟨rfl, -⟩ <;> decide +kernel
  case rivals =>
    obtain ⟨inner, content, hm, -⟩ := id hother
    simp only [vlanEntries, List.mem_cons, Prod.mk.injEq, List.not_mem_nil, or_false] at hm
    rcases hm with ⟨rfl, -⟩ | ⟨rfl, -⟩ | ⟨rfl, -⟩
    · exact absurd hother (hnone other)
    · decide +kernel
    · decide +kernel

theorem locate_least_vlan :
    IsVendorListing (vlanTree.held (sampleFixtures.root.join ⟨"cisco"⟩)) ∧
      (sampleFixtures.root.join ⟨"cisco"⟩).text ≠ "" ∧ IsEntryName "show_vlan" ∧
      isBlankText "show_vlan" = false ∧
      IsVendorListing (clockTree.held (sampleFixtures.root.join ⟨"cisco"⟩)) ∧
      Relation.ReflTransGen (sampleFixtures.Alteration "show_vlan")
        (vlanTree.held (sampleFixtures.root.join ⟨"cisco"⟩))
        (clockTree.held (sampleFixtures.root.join ⟨"cisco"⟩)) ∧
      sampleFixtures.locate vlanTree "cisco" "show_vlan" =
        some ⟨"tests/cisco/show_vlan_a/x1.raw"⟩ ∧
      sampleFixtures.locate clockTree "cisco" "show_vlan" =
        some ⟨"tests/cisco/show_vlan_a/x1.raw"⟩ := by
  have hvlan : vlanTree.held (sampleFixtures.root.join ⟨"cisco"⟩) = vlanEntries := rfl
  have hclock : clockTree.held (sampleFixtures.root.join ⟨"cisco"⟩) =
      (("show_clock", .folder [("c.raw", .file (some "c"))]) :: vlanEntries).reverse := rfl
  have hne : (sampleFixtures.root.join ⟨"cisco"⟩).text ≠ "" := by decide +kernel
  have hn : IsEntryName "show_vlan" := by decide
  have hb : isBlankText "show_vlan" = false := by decide +kernel
  have halter : Relation.ReflTransGen (sampleFixtures.Alteration "show_vlan") vlanEntries
      (("show_clock", .folder [("c.raw", .file (some "c"))]) :: vlanEntries).reverse := by
    refine .tail (.single (.folder "show_clock" [("c.raw", .file (some "c"))] ?_))
      (.order (List.reverse_perm _).symm)
    exact fun hnear => absurd hnear (by decide)
  have hlvlan : IsVendorListing (vlanTree.held (sampleFixtures.root.join ⟨"cisco"⟩)) :=
    hvlan ▸ vlanEntries_listing
  have hlclock : IsVendorListing (clockTree.held (sampleFixtures.root.join ⟨"cisco"⟩)) :=
    hclock ▸ clockEntries_listing
  have hreach : Relation.ReflTransGen (sampleFixtures.Alteration "show_vlan")
      (vlanTree.held (sampleFixtures.root.join ⟨"cisco"⟩))
      (clockTree.held (sampleFixtures.root.join ⟨"cisco"⟩)) := by
    rw [hvlan, hclock]
    exact halter
  obtain ⟨-, hchosen, hsame⟩ := locate_least hlvlan hne hn hb
  have hlocated : sampleFixtures.locate vlanTree "cisco" "show_vlan" =
      some ⟨"tests/cisco/show_vlan_a/x1.raw"⟩ := by
    refine (hchosen _).mpr ⟨"show_vlan_a", "x1.raw", ?_, by decide +kernel⟩
    rw [hvlan]
    exact chosen_vlan
  exact ⟨hlvlan, hne, hn, hb, hlclock, hreach, hlocated,
    (hsame clockTree hlclock hreach).trans hlocated⟩

end TemplateBench.Fixtures
