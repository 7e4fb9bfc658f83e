import TemplateBench.Proofs.Files.Places
import TemplateBench.Proofs.Text.Searches
import TemplateBench.Suite.Fixture

/-!
Where located fixtures lie.

* `firstIn_place`: the first fixture of a folder is a file directly in it.
* `locate_confined`: a located fixture is a file with the extension of fixtures. If the command may
  be the name of an entry, it lies in an immediate folder of its vendor.
* `locate_stray`: if the command is a point, it may lie in the folder of the vendor itself.
-/
namespace TemplateBench.Fixtures
open Text

variable {f : Fixtures} {t : FileTree} {p : Path}

theorem firstIn_eq_some {folder : Path} (h : f.firstIn t folder = some p) :
    ∃ names name, t.list folder = .ok names ∧ name ∈ names ∧ p = folder.join ⟨name⟩ ∧
      t.isFile p = true ∧ f.isFixtureName name = true := by
  unfold firstIn at h
  split at h
  · cases h
  · rename_i names hnames
    obtain ⟨name, hfound, rfl⟩ := Option.map_eq_some_iff.mp h
    have hm := List.mem_of_find?_eq_some hfound
    have hp := List.find?_some hfound
    rw [Bool.and_eq_true] at hp
    exact ⟨names, name, hnames, List.mem_mergeSort.mp hm, rfl, hp.1, hp.2⟩

theorem nearby_eq_some {folder : Path} {command : String}
    (h : f.nearby t folder command = some p) :
    ∃ names name, t.list folder = .ok names ∧ name ∈ names ∧ overlaps name command = true ∧
      f.firstIn t (folder.join ⟨name⟩) = some p := by
  unfold nearby at h
  split at h
  · cases h
  · rename_i names hnames
    obtain ⟨name, hm, hfound⟩ := List.exists_of_findSome?_eq_some h
    dsimp only at hfound
    split at hfound
    · rename_i hcond
      rw [Bool.and_eq_true] at hcond
      exact ⟨names, name, hnames, List.mem_mergeSort.mp hm, hcond.2, hfound⟩
    · cases hfound

/-- The first fixture of a folder is a file directly in it. -/
theorem firstIn_place (ht : t.root.WellNamed) {folder : Path} (h : f.firstIn t folder = some p) :
    ∃ inner entries file content,
      t.place folder = .ok inner ∧ inner.node t.root = .folder entries ∧
      t.place p = .ok ((file, .file content) :: inner) ∧ p = folder.join ⟨file⟩ ∧
      ('.' :: f.extension.toList) <:+ file.toList := by
  obtain ⟨names, file, hlist, hm, rfl, hfile, hsuffix⟩ := firstIn_eq_some h
  obtain ⟨trail, content, htrail, hcontent⟩ := FileTree.place_of_isFile hfile
  obtain ⟨inner, entries, n, hinner, hnode, -, rfl⟩ :=
    FileTree.place_join_entry (FileTree.isEntryName_of_list ht hlist hm) htrail
  cases hcontent
  exact ⟨inner, entries, file, content, hinner, hnode, htrail, rfl, endsWith_iff.mp hsuffix⟩

/-- A fixture is located in the folder of the command, or in one near it. -/
theorem locate_eq_some {vendor command : String} (h : f.locate t vendor command = some p) :
    ∃ name, f.firstIn t ((f.root.join ⟨vendor⟩).join ⟨name⟩) = some p ∧
      (name = command ∨
        (∃ names, t.list (f.root.join ⟨vendor⟩) = .ok names ∧ name ∈ names) ∧
        overlaps name command = true) := by
  unfold locate at h
  split at h
  · cases h
  · rcases Option.or_eq_some_iff.mp h with hexact | ⟨-, hnear⟩
    · exact ⟨command, hexact, .inl rfl⟩
    · obtain ⟨names, name, hlist, hm, hover, hfound⟩ := nearby_eq_some hnear
      exact ⟨name, hfound, .inr ⟨⟨names, hlist, hm⟩, hover⟩⟩

/-! ## A vendor with a file beside its folders -/

theorem sortedNames_of_pairwise {names : List String}
    (h : names.Pairwise fun a b => decide (a ≤ b) = true) : sortedNames names = names :=
  List.mergeSort_of_pairwise h

theorem locate_of_not_blank {vendor command : String} (h : isBlankText command = false) :
    f.locate t vendor command =
      (f.firstIn t ((f.root.join ⟨vendor⟩).join ⟨command⟩)).or
        (f.nearby t (f.root.join ⟨vendor⟩) command) := by
  simp [locate, h]

/-- The first fixture of the folder of a command, when the tree holds its entries by name. -/
theorem locate_of_pairwise {vendor command : String} (names : List String) (name : String)
    (hc : isBlankText command = false)
    (hlist : t.list ((f.root.join ⟨vendor⟩).join ⟨command⟩) = .ok names)
    (hsorted : names.Pairwise fun a b => decide (a ≤ b) = true)
    (hfound : (names.find? fun name =>
      t.isFile (((f.root.join ⟨vendor⟩).join ⟨command⟩).join ⟨name⟩) && f.isFixtureName name) =
        some name) :
    f.locate t vendor command = some (((f.root.join ⟨vendor⟩).join ⟨command⟩).join ⟨name⟩) := by
  simp only [locate_of_not_blank hc, firstIn, hlist, sortedNames_of_pairwise hsorted, hfound,
    Option.map_some, Option.some_or]

def sampleTree : FileTree where
  root := .folder [("tests", .folder [("cisco", .folder [
    ("show_version", .folder [("v.raw", .file (some "v"))]), ("stray.raw", .file (some "s"))])])]

def sampleFixtures : Fixtures := ⟨⟨"tests"⟩, "raw"⟩

theorem sampleTree_wellNamed : sampleTree.root.WellNamed := by
  simp only [sampleTree, Node.WellNamed, EntriesWellNamed, and_true]
  decide

theorem list_sampleTree_cisco :
    sampleTree.list ⟨"tests/cisco"⟩ = .ok ["show_version", "stray.raw"] := by
  rfl

theorem sortedNames_sample :
    sortedNames ["show_version", "stray.raw"] = ["show_version", "stray.raw"] :=
  sortedNames_of_pairwise (by decide +kernel)

theorem locate_sampleTree_version :
    sampleFixtures.locate sampleTree "cisco" "show_ver" =
      some ⟨"tests/cisco/show_version/v.raw"⟩ := by
  have hvendor : sampleFixtures.root.join ⟨"cisco"⟩ = ⟨"tests/cisco"⟩ := by decide +kernel
  have hexact : sampleFixtures.firstIn sampleTree ((⟨"tests/cisco"⟩ : Path).join ⟨"show_ver"⟩) =
      none := by
    rfl
  have hnear : sampleFixtures.nearby sampleTree ⟨"tests/cisco"⟩ "show_ver" =
      some ⟨"tests/cisco/show_version/v.raw"⟩ := by
    have hfolder : (⟨"tests/cisco"⟩ : Path).join ⟨"show_version"⟩ = ⟨"tests/cisco/show_version"⟩ := by
      decide +kernel
    have hover : overlaps "show_version" "show_ver" = true := by decide +kernel
    have hisFolder : sampleTree.isFolder ⟨"tests/cisco/show_version"⟩ = true := by rfl
    have hfixtures : sampleTree.list ⟨"tests/cisco/show_version"⟩ = .ok ["v.raw"] := by rfl
    have hfirst : sampleFixtures.firstIn sampleTree ⟨"tests/cisco/show_version"⟩ =
        some ⟨"tests/cisco/show_version/v.raw"⟩ := by
      simp only [firstIn, hfixtures, sortedNames_of_pairwise (List.pairwise_singleton _ _)]
      decide +kernel
    simp only [nearby, list_sampleTree_cisco, sortedNames_sample, List.findSome?_cons, hfolder,
      hover, hisFolder, hfirst, Bool.and_self, if_true]
  rw [locate_of_not_blank (by decide +kernel), hvendor, hexact, hnear, Option.none_or]

/-! ## Confinement -/

/-- **Confinement.** In a tree whose entries have names, a located fixture is a file with the
extension of fixtures. If the command may itself be the name of an entry, the file lies in a folder
that lies in the folder of the vendor, and of whose name and the command one contains the other. -/
theorem locate_confined (ht : t.root.WellNamed) {vendor command : String}
    (h : f.locate t vendor command = some p) :
    ∃ file content inner,
      t.place p = .ok ((file, .file content) :: inner) ∧
      ('.' :: f.extension.toList) <:+ file.toList ∧
      (IsEntryName command → ∃ folder entries outer,
        t.place (f.root.join ⟨vendor⟩) = .ok outer ∧
        inner = (folder, .folder entries) :: outer ∧
        p = ((f.root.join ⟨vendor⟩).join ⟨folder⟩).join ⟨file⟩ ∧
        (folder.toList <:+: command.toList ∨ command.toList <:+: folder.toList)) := by
  obtain ⟨folder, hfound, hname⟩ := locate_eq_some h
  obtain ⟨inner, entries, file, content, hinner, hnode, hplace, hp, hsuffix⟩ :=
    firstIn_place ht hfound
  refine ⟨file, content, inner, hplace, hsuffix, fun hc => ?_⟩
  have hentry : IsEntryName folder := by
    rcases hname with rfl | ⟨⟨names, hlist, hm⟩, -⟩
    · exact hc
    · exact FileTree.isEntryName_of_list ht hlist hm
  have hover : folder.toList <:+: command.toList ∨ command.toList <:+: folder.toList := by
    rcases hname with rfl | ⟨-, hover⟩
    · exact .inl List.infix_rfl
    · rwa [overlaps, Bool.or_eq_true, contains_iff, contains_iff] at hover
  obtain ⟨outer, _, n, houter, -, -, rfl⟩ := FileTree.place_join_entry hentry hinner
  cases hnode
  exact ⟨folder, entries, outer, houter, rfl, hp, hover⟩

theorem locate_confined_version :
    ∃ file content inner,
      sampleTree.place ⟨"tests/cisco/show_version/v.raw"⟩ = .ok ((file, .file content) :: inner) ∧
      ('.' :: sampleFixtures.extension.toList) <:+ file.toList ∧
      ∃ folder entries outer,
        sampleTree.place (sampleFixtures.root.join ⟨"cisco"⟩) = .ok outer ∧
        inner = (folder, .folder entries) :: outer ∧
        ⟨"tests/cisco/show_version/v.raw"⟩ =
          ((sampleFixtures.root.join ⟨"cisco"⟩).join ⟨folder⟩).join ⟨file⟩ ∧
        (folder.toList <:+: "show_ver".toList ∨ "show_ver".toList <:+: folder.toList) := by
  obtain ⟨file, content, inner, hplace, hsuffix, hfolder⟩ :=
    locate_confined sampleTree_wellNamed locate_sampleTree_version
  have hcommand : IsEntryName "show_ver" := by decide
  exact ⟨file, content, inner, hplace, hsuffix, hfolder hcommand⟩

/-- A command that is a point leads to the folder of the vendor, and the file beside its folders is
located. -/
theorem locate_stray :
    sampleFixtures.locate sampleTree "cisco" "." = some ⟨"tests/cisco/./stray.raw"⟩ ∧
      sampleTree.place ⟨"tests/cisco/./stray.raw"⟩ =
        (sampleTree.place ⟨"tests/cisco"⟩).map (("stray.raw", .file (some "s")) :: ·) := by
  have hfolder : (sampleFixtures.root.join ⟨"cisco"⟩).join ⟨"."⟩ = ⟨"tests/cisco/."⟩ := by
    decide +kernel
  have hlist : sampleTree.list ⟨"tests/cisco/."⟩ = .ok ["show_version", "stray.raw"] := by rfl
  have hexact : sampleFixtures.firstIn sampleTree ⟨"tests/cisco/."⟩ =
      some ⟨"tests/cisco/./stray.raw"⟩ := by
    simp only [firstIn, hlist, sortedNames_sample]
    decide +kernel
  refine ⟨?_, by rfl⟩
  rw [locate_of_not_blank (by decide +kernel), hfolder, hexact, Option.some_or]

end TemplateBench.Fixtures
