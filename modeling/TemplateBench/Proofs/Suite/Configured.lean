import TemplateBench.Proofs.Files.Ancestors
import TemplateBench.Proofs.Files.Entries
import TemplateBench.Proofs.Result
import TemplateBench.Suite.Settings

/-!
Which settings are found.

* `HasSettings`: a folder that has a file of settings; `node_settings_iff` reads this off the tree.
* `Nearest`: the first folder of a list that has one. The others before it are passed over
  (`nearest_append`), and the ones after it are never looked at (`nearest_of_nearest`).
* `Resolves`: what a folder does to the settings of its file (`eq_anchor_iff`). Afterwards the paths
  are absolute, and anchoring them once more changes nothing (`Anchored.anchor`).
* `discover_nearest` puts these together.
-/
namespace TemplateBench.Settings

variable {t : FileTree} {start folder : Path} {folders below above : List Path}
  {content : Option String} {s s' : Settings}

/-! ## Files of settings -/

/-- The folder has a file of settings. Its content is none if the bytes in it are no text. -/
def HasSettings (t : FileTree) (folder : Path) (content : Option String) : Prop :=
  ∃ entries, t.node folder = .ok (.folder entries) ∧
    entries.lookup "template-harness.toml" = some (.file content)

theorem isEntryName_fileName : IsEntryName fileName := by decide

theorem node_settings_iff (hfolder : folder.isAbsolute = true) :
    t.node (folder.join ⟨fileName⟩) = .ok (.file content) ↔ HasSettings t folder content := by
  have hne : folder.text ≠ "" := Path.text_ne_empty hfolder
  constructor
  · intro h
    by_cases hin : ∃ entries, t.node folder = .ok (.folder entries)
    · obtain ⟨entries, hentries⟩ := hin
      exact ⟨entries, hentries, (FileTree.node_join_entry hentries isEntryName_fileName).mp h⟩
    · rw [not_exists] at hin
      exact absurd h (FileTree.node_join_error isEntryName_fileName hne hin)
  · rintro ⟨entries, hentries, hl⟩
    exact (FileTree.node_join_entry hentries isEntryName_fileName).mpr hl

theorem isFile_settings_iff (hfolder : folder.isAbsolute = true) :
    t.isFile (folder.join ⟨fileName⟩) = true ↔ ∃ content, HasSettings t folder content := by
  simp only [FileTree.isFile_iff, node_settings_iff hfolder]

/-- What is read from a file at a path: a text that is no document of settings is refused, and so is
what is no text. -/
def decode (path : Path) : Option String → Except Problem Settings
  | some text => read text
  | none => .error (.unreadableSettings path .notText)

theorem load_settings (hfolder : folder.isAbsolute = true) (h : HasSettings t folder content) :
    load t (folder.join ⟨fileName⟩) = decode (folder.join ⟨fileName⟩) content := by
  have hnode := (node_settings_iff hfolder).mpr h
  cases content with
  | none => simp only [load, FileTree.read, hnode, decode]
  | some text => simp only [load, FileTree.read, hnode, decode]

/-! ## The nearest file -/

/-- The folder is the first one that has a file of settings. -/
structure Nearest (t : FileTree) (folders : List Path) (folder : Path) (content : Option String) :
    Prop where
  settings : HasSettings t folder content
  first : ∃ below above, folders = below ++ folder :: above ∧
    ∀ inner ∈ below, ∀ other, ¬ HasSettings t inner other

theorem nearest_or_none (t : FileTree) (folders : List Path) :
    (∀ folder ∈ folders, ∀ content, ¬ HasSettings t folder content) ∨
      ∃ folder content, Nearest t folders folder content := by
  induction folders with
  | nil => exact .inl (by simp)
  | cons inner outer ih =>
    by_cases hin : ∃ content, HasSettings t inner content
    · obtain ⟨content, hin⟩ := hin
      exact .inr ⟨inner, content, hin, [], outer, rfl, by simp⟩
    · rw [not_exists] at hin
      rcases ih with hnone | ⟨folder, content, hfolder, below, above, rfl, hbelow⟩
      · exact .inl (List.forall_mem_cons.mpr ⟨hin, hnone⟩)
      · exact .inr ⟨folder, content, hfolder, inner :: below, above, rfl,
          List.forall_mem_cons.mpr ⟨hin, hbelow⟩⟩

/-- Folders without a file of settings are passed over. -/
theorem nearest_append (hfolders : ∀ inner ∈ below, inner.isAbsolute = true)
    (h : ∀ inner ∈ below, ∀ content, ¬ HasSettings t inner content) (above : List Path) :
    nearest t (below ++ above) = nearest t above := by
  induction below with
  | nil => rfl
  | cons inner below ih =>
    obtain ⟨hinner, hfolders⟩ := List.forall_mem_cons.mp hfolders
    obtain ⟨hnone, h⟩ := List.forall_mem_cons.mp h
    have hfile : ¬ t.isFile (inner.join ⟨fileName⟩) = true := by
      rw [isFile_settings_iff hinner, not_exists]
      exact hnone
    rw [List.cons_append, nearest, if_neg hfile, ih hfolders h]

theorem nearest_eq_none (hfolders : ∀ folder ∈ folders, folder.isAbsolute = true)
    (h : ∀ folder ∈ folders, ∀ content, ¬ HasSettings t folder content) :
    nearest t folders = .ok none := by
  have hall := nearest_append hfolders h []
  rwa [List.append_nil] at hall

/-- The file of the nearest folder settles what is found, also when it cannot be read. -/
theorem nearest_of_nearest (hfolders : ∀ folder ∈ folders, folder.isAbsolute = true)
    (h : Nearest t folders folder content) :
    nearest t folders =
      (decode (folder.join ⟨fileName⟩) content).map fun s => some (s.anchor folder) := by
  obtain ⟨hsettings, below, above, rfl, hbelow⟩ := h
  have hfolder : folder.isAbsolute = true := hfolders folder (by simp)
  have hfile := (isFile_settings_iff hfolder).mpr ⟨content, hsettings⟩
  rw [nearest_append (fun inner hm => hfolders inner (List.mem_append_left _ hm)) hbelow, nearest,
    if_pos hfile, load_settings hfolder hsettings]

/-! ## Paths behind the folder of the file -/

/-- The paths of the settings lie behind the folder unless they are absolute; all else is kept. -/
structure Resolves (folder : Path) (s s' : Settings) : Prop where
  templateFolder : s'.templateFolder =
    if s.templateFolder.isAbsolute then s.templateFolder else folder.join s.templateFolder
  fixtureFolder : s'.fixtureFolder =
    if s.fixtureFolder.isAbsolute then s.fixtureFolder else folder.join s.fixtureFolder
  output : s'.output = s.output.map fun p => if p.isAbsolute then p else folder.join p
  kept : { s' with
    templateFolder := s.templateFolder
    fixtureFolder := s.fixtureFolder
    output := s.output } = s

theorem eq_anchor_iff : s' = s.anchor folder ↔ Resolves folder s s' := by
  constructor
  · rintro rfl
    exact ⟨rfl, rfl, rfl, rfl⟩
  · rintro ⟨htemplate, hfixture, houtput, hkept⟩
    cases s
    cases s'
    simp only [mk.injEq, true_and] at htemplate hfixture houtput hkept
    obtain ⟨rfl, rfl, rfl, rfl, rfl, rfl, rfl, rfl, -⟩ := hkept
    rw [htemplate, hfixture, houtput]
    rfl

structure Anchored (s : Settings) : Prop where
  templateFolder : s.templateFolder.isAbsolute = true
  fixtureFolder : s.fixtureFolder.isAbsolute = true
  output : ∀ p ∈ s.output, p.isAbsolute = true

theorem anchored_anchor (hfolder : folder.isAbsolute = true) (s : Settings) :
    (s.anchor folder).Anchored where
  templateFolder := Path.isAbsolute_anchor hfolder _
  fixtureFolder := Path.isAbsolute_anchor hfolder _
  output p hp := by
    obtain ⟨q, -, rfl⟩ := Option.map_eq_some_iff.mp hp
    exact Path.isAbsolute_anchor hfolder q

/-- Anchored settings stay as they are, whatever they are put behind. -/
theorem Anchored.anchor (h : s.Anchored) (base : Path) : s.anchor base = s := by
  have houtput : s.output.map base.anchor = s.output := by
    cases hs : s.output with
    | none => rfl
    | some p => rw [Option.map_some, Path.anchor_of_isAbsolute (h.output p hs)]
  unfold Settings.anchor
  rw [Path.anchor_of_isAbsolute h.templateFolder, Path.anchor_of_isAbsolute h.fixtureFolder,
    houtput]

/-! ## Discovery -/

section Discovery

variable (hstart : start.isAbsolute = true)
include hstart

theorem discover_of_nearest (h : Nearest t start.ancestors folder content) :
    discover t start =
      (decode (folder.join ⟨fileName⟩) content).map fun s => some (s.anchor folder) :=
  nearest_of_nearest (fun _ => Path.isAbsolute_of_mem_ancestors hstart) h

theorem discover_eq_none_iff :
    discover t start = .ok none ↔
      ∀ folder ∈ start.ancestors, ∀ content, ¬ HasSettings t folder content := by
  constructor
  · intro h
    rcases nearest_or_none t start.ancestors with hnone | ⟨folder, content, hnearest⟩
    · exact hnone
    · rw [discover_of_nearest hstart hnearest] at h
      obtain ⟨s, -, hs⟩ := map_eq_ok_iff.mp h
      cases hs
  · exact nearest_eq_none fun _ => Path.isAbsolute_of_mem_ancestors hstart

theorem discover_eq_error_iff {e : Problem} :
    discover t start = .error e ↔ ∃ folder content, Nearest t start.ancestors folder content ∧
      decode (folder.join ⟨fileName⟩) content = .error e := by
  constructor
  · intro h
    rcases nearest_or_none t start.ancestors with hnone | ⟨folder, content, hnearest⟩
    · rw [(discover_eq_none_iff hstart).mpr hnone] at h
      cases h
    · rw [discover_of_nearest hstart hnearest] at h
      exact ⟨folder, content, hnearest, map_eq_error_iff.mp h⟩
  · rintro ⟨folder, content, hnearest, hdecode⟩
    rw [discover_of_nearest hstart hnearest]
    exact map_eq_error_iff.mpr hdecode

theorem discover_eq_some_iff :
    discover t start = .ok (some s') ↔ ∃ folder content s,
      Nearest t start.ancestors folder content ∧ decode (folder.join ⟨fileName⟩) content = .ok s ∧
      Resolves folder s s' := by
  constructor
  · intro h
    rcases nearest_or_none t start.ancestors with hnone | ⟨folder, content, hnearest⟩
    · rw [(discover_eq_none_iff hstart).mpr hnone] at h
      cases h
    · rw [discover_of_nearest hstart hnearest] at h
      obtain ⟨s, hdecode, hs'⟩ := map_eq_ok_iff.mp h
      exact ⟨folder, content, s, hnearest, hdecode, eq_anchor_iff.mp (Option.some.inj hs').symm⟩
  · rintro ⟨folder, content, s, hnearest, hdecode, hs'⟩
    rw [discover_of_nearest hstart hnearest, eq_anchor_iff.mpr hs']
    exact map_eq_ok_iff.mpr ⟨s, hdecode, rfl⟩

theorem anchored_of_discover (h : discover t start = .ok (some s')) : s'.Anchored := by
  obtain ⟨folder, content, s, ⟨-, below, above, habove, -⟩, -, hs'⟩ :=
    (discover_eq_some_iff hstart).mp h
  have hfolder : folder.isAbsolute = true :=
    Path.isAbsolute_of_mem_ancestors hstart (by simp [habove])
  rw [eq_anchor_iff.mpr hs']
  exact anchored_anchor hfolder s

theorem discover_above (habove : start.ancestors = below ++ folder :: above)
    (h : ∀ inner ∈ below, ∀ content, ¬ HasSettings t inner content) :
    discover t start = discover t folder := by
  have hbelow : ∀ inner ∈ below, inner.isAbsolute = true := fun inner hm =>
    Path.isAbsolute_of_mem_ancestors hstart (by simp [habove, hm])
  rw [discover, discover, habove, nearest_append hbelow h, Path.ancestors_of_append hstart habove]

end Discovery

/-- **Discovery.** The settings come from the file of the nearest folder at or above the start.
There are none if no folder there has a file. If the nearest file cannot be read, nothing is found
farther out. The paths in it lie behind its folder, so they are the same from wherever the
discovery starts, as long as no file is nearer, and no other folder changes them any more. -/
theorem discover_nearest (hstart : start.isAbsolute = true) :
    (discover t start = .ok none ↔
      ∀ folder ∈ start.ancestors, ∀ content, ¬ HasSettings t folder content) ∧
    (∀ e, discover t start = .error e ↔
      ∃ folder content, Nearest t start.ancestors folder content ∧
        (content = none ∧ e = .unreadableSettings (folder.join ⟨"template-harness.toml"⟩) .notText ∨
          ∃ text, content = some text ∧ read text = .error e)) ∧
    (∀ s', discover t start = .ok (some s') ↔
      ∃ folder text s, Nearest t start.ancestors folder (some text) ∧ read text = .ok s ∧
        Resolves folder s s') ∧
    (∀ s', discover t start = .ok (some s') →
      s'.templateFolder.isAbsolute = true ∧ s'.fixtureFolder.isAbsolute = true ∧
      (∀ p ∈ s'.output, p.isAbsolute = true) ∧ ∀ base, s'.anchor base = s') ∧
    ∀ below folder above, start.ancestors = below ++ folder :: above →
      (∀ inner ∈ below, ∀ content, ¬ HasSettings t inner content) →
      discover t start = discover t folder := by
  refine ⟨discover_eq_none_iff hstart, fun e => ?failed, fun s' => ?found, fun s' h => ?anchored,
    fun below folder above habove h => discover_above hstart habove h⟩
  case failed =>
    rw [discover_eq_error_iff hstart]
    refine exists_congr fun folder => exists_congr fun content => and_congr_right fun _ => ?_
    cases content with
    | none => simp [decode, fileName, eq_comm]
    | some text => simp [decode]
  case found =>
    rw [discover_eq_some_iff hstart]
    refine exists_congr fun folder => ⟨?_, ?_⟩
    · rintro ⟨content, s, hnearest, hdecode, hs'⟩
      cases content with
      | none => cases hdecode
      | some text => exact ⟨text, s, hnearest, hdecode, hs'⟩
    · rintro ⟨text, s, hnearest, hread, hs'⟩
      exact ⟨some text, s, hnearest, hread, hs'⟩
  case anchored =>
    have hs' := anchored_of_discover hstart h
    exact ⟨hs'.templateFolder, hs'.fixtureFolder, hs'.output, hs'.anchor⟩

/-- The settings in the root are too far out for the jobs. -/
def sampleTree : FileTree where
  root := .folder [
    ("template-harness.toml", .file (some "vendor = \"arista_eos\"")),
    ("srv", .folder [
      ("template-harness.toml", .file (some "fixture_dir = \"/lab\"")),
      ("jobs", .folder [])])]

theorem discover_nearest_jobs :
    (⟨"/srv/jobs"⟩ : Path).isAbsolute = true ∧
      discover sampleTree ⟨"/srv/jobs"⟩ = discover sampleTree ⟨"/srv"⟩ ∧
      ∃ s', discover sampleTree ⟨"/srv/jobs"⟩ = .ok (some s') ∧
        s'.templateFolder = ⟨"/srv/templates"⟩ ∧ s'.fixtureFolder = ⟨"/lab"⟩ ∧
        s'.vendor = "cisco_ios" := by
  have hstart : (⟨"/srv/jobs"⟩ : Path).isAbsolute = true := by decide
  have habove : (⟨"/srv/jobs"⟩ : Path).ancestors = [⟨"/srv/jobs"⟩] ++ ⟨"/srv"⟩ :: [⟨"/"⟩] := by
    decide +kernel
  have hjobs : ∀ inner ∈ [(⟨"/srv/jobs"⟩ : Path)], ∀ content,
      ¬ HasSettings sampleTree inner content := by
    intro inner hm content
    rw [List.mem_singleton.mp hm]
    rintro ⟨entries, hentries, hl⟩
    have hempty : sampleTree.node ⟨"/srv/jobs"⟩ = .ok (.folder []) := rfl
    cases hempty.symm.trans hentries
    cases hl
  have hsettings : HasSettings sampleTree ⟨"/srv"⟩ (some "fixture_dir = \"/lab\"") := ⟨_, rfl, rfl⟩
  have hread : ∃ s, read "fixture_dir = \"/lab\"" = .ok s ∧ s.templateFolder = ⟨"templates"⟩ ∧
      s.fixtureFolder = ⟨"/lab"⟩ ∧ s.vendor = "cisco_ios" := exists_ok (by decide +kernel)
  obtain ⟨s, hs, htemplate, hfixture, hvendor⟩ := hread
  obtain ⟨-, -, hfound, -, hsame⟩ := discover_nearest (t := sampleTree) hstart
  refine ⟨hstart, hsame _ _ _ habove hjobs, s.anchor ⟨"/srv"⟩, (hfound _).mpr
    ⟨_, _, s, ⟨hsettings, _, _, habove, hjobs⟩, hs, eq_anchor_iff.mp rfl⟩, ?_, ?_, hvendor⟩
  · change Path.anchor ⟨"/srv"⟩ s.templateFolder = _
    rw [htemplate]
    decide +kernel
  · change Path.anchor ⟨"/srv"⟩ s.fixtureFolder = _
    rw [hfixture]
    decide +kernel

end TemplateBench.Settings
