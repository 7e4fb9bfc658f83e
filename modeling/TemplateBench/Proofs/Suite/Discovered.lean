import TemplateBench.Proofs.Files.Entries
import TemplateBench.Proofs.Text.Searches
import TemplateBench.Proofs.Text.Sorting
import TemplateBench.Suite.Discovery

/-!
What the template files of a folder are.

* `commandName_fullName`: a command is read back from the name `<prefix>_<command>.<extension>`,
  whatever is in it.
* `eq_name_of_command`: a file name with the extension is the command with the extension, with or
  without the prefix before it.
* `mem_templateFiles_iff`, `templateFiles_increasing`, `templateFiles_of_perm`: the template files
  are the files of the folder with such names, each once and by name, in whatever order the folder
  lists them.
* `select_eq_noMatch_iff`, `select_sublist`: a filter leaves some of them in their order, or none
  is called by it or contains it.
* `discover_complete` puts these together.
-/
namespace TemplateBench
open Text

/-! ## Names and commands -/

/-- The name of a template file without a prefix. -/
def bareName (command extension : String) : String := command ++ "." ++ extension

def fullName (front command extension : String) : String :=
  front ++ "_" ++ command ++ "." ++ extension

variable {front extension name command : String}

theorem dropBack_append (stem back : List Char) : dropBack back (stem ++ back) = some stem := by
  have hfront : dropFront back.reverse (back.reverse ++ stem.reverse) = some stem.reverse :=
    dropFront_eq_some_iff.mpr rfl
  rw [dropBack, List.reverse_append, hfront, Option.map_some, List.reverse_reverse]

theorem withoutExtension_of_eq {stem : List Char}
    (h : name.toList = stem ++ '.' :: extension.toList) :
    withoutExtension name extension = stem := by
  have hsplit : stem ++ '.' :: extension.toList = (stem ++ ['.']) ++ extension.toList := by simp
  rw [withoutExtension, h, hsplit, dropBack_append, Option.bind_some, dropBack_append,
    Option.getD_some]

/-- The prefix is taken away if something is left behind it. -/
theorem commandName_of_stem (front : String) {stem : List Char}
    (h : name.toList = stem ++ '.' :: extension.toList) :
    (∃ c ≠ [], stem = front.toList ++ '_' :: c ∧ commandName name front extension = String.ofList c) ∨
      (∀ c ≠ [], stem ≠ front.toList ++ '_' :: c) ∧
        commandName name front extension = String.ofList stem := by
  rw [commandName, withoutExtension_of_eq h]
  cases hdrop : dropFront (front.toList ++ ['_']) stem with
  | none =>
    refine .inr ⟨fun c _ he => ?_, rfl⟩
    have : dropFront (front.toList ++ ['_']) stem = some c :=
      dropFront_eq_some_iff.mpr (by simp [he])
    rw [hdrop] at this
    cases this
  | some rest =>
    have hstem : stem = front.toList ++ '_' :: rest := by
      rw [dropFront_eq_some_iff.mp hdrop, List.append_assoc, List.singleton_append]
    cases rest with
    | nil =>
      refine .inr ⟨fun c hc he => hc ?_, rfl⟩
      rw [hstem, List.append_cancel_left_eq, List.cons.injEq] at he
      exact he.2.symm
    | cons c rest => exact .inl ⟨c :: rest, by simp, hstem, rfl⟩

/-- A command is read back from the full name made with it. -/
theorem commandName_fullName (h : command ≠ "") :
    commandName (fullName front command extension) front extension = command := by
  have hname : (fullName front command extension).toList =
      (front.toList ++ '_' :: command.toList) ++ '.' :: extension.toList := by
    simp [fullName]
  have hcommand : command.toList ≠ [] := fun he => h (String.toList_inj.mp he)
  rcases commandName_of_stem front hname with ⟨c, -, hstem, hc⟩ | ⟨hnone, -⟩
  · rw [List.append_cancel_left_eq, List.cons.injEq] at hstem
    rw [hc, ← hstem.2, String.ofList_toList]
  · exact absurd rfl (hnone command.toList hcommand)

/-- A file name with the extension is made of its command in one of two ways. -/
theorem eq_name_of_command (front : String) (h : ('.' :: extension.toList) <:+ name.toList) :
    name = bareName (commandName name front extension) extension ∨
      name = fullName front (commandName name front extension) extension := by
  obtain ⟨stem, hstem⟩ := h
  rcases commandName_of_stem front hstem.symm with ⟨c, -, hc, hcommand⟩ | ⟨-, hcommand⟩
  · refine .inr (String.toList_inj.mp ?_)
    rw [hcommand, ← hstem, hc]
    simp [fullName]
  · refine .inl (String.toList_inj.mp ?_)
    rw [hcommand, ← hstem]
    simp [bareName]

/-! ## The files of a folder -/

/-- A file of a folder with the name of a template, as a template file. -/
structure IsTemplate (folder : Path) (entries : List (String × Node)) (front extension : String)
    (f : TemplateFile) : Prop where
  file : ∃ content, (f.fileName, .file content) ∈ entries
  begins : front.toList <+: f.fileName.toList
  ending : ('.' :: extension.toList) <:+ f.fileName.toList
  command : f.command = commandName f.fileName front extension
  path : f.path = folder.join ⟨f.fileName⟩

/-- The template file that an entry is, if it is one. -/
def templateFile? (t : FileTree) (folder : Path) (front extension name : String) :
    Option TemplateFile :=
  if t.isFile (folder.join ⟨name⟩) && isTemplateName front extension name then
    some ⟨name, commandName name front extension, folder.join ⟨name⟩⟩
  else none

theorem isTemplateName_iff : isTemplateName front extension name = true ↔
    front.toList <+: name.toList ∧ ('.' :: extension.toList) <:+ name.toList := by
  rw [isTemplateName, Bool.and_eq_true, startsWith_iff, endsWith_iff]

variable {t t' : FileTree} {folder : Path} {entries entries' : List (String × Node)}
  {f g : TemplateFile}

theorem templateFile?_eq_some (h : templateFile? t folder front extension name = some f) :
    f.fileName = name := by
  unfold templateFile? at h
  split at h
  · cases h
    rfl
  · cases h

theorem templateFile?_eq_some_iff (hfolder : t.node folder = .ok (.folder entries))
    (hl : IsListing entries) (hn : IsEntryName name) :
    templateFile? t folder front extension name = some f ↔
      f.fileName = name ∧ IsTemplate folder entries front extension f := by
  constructor
  · intro h
    obtain rfl := templateFile?_eq_some h
    unfold templateFile? at h
    split at h
    · rename_i hcond
      rw [Bool.and_eq_true, FileTree.isFile_join_iff hfolder hl hn, isTemplateName_iff] at hcond
      obtain ⟨hfile, hfront, hending⟩ := hcond
      have hf := Option.some.inj h
      exact ⟨rfl, hfile, hfront, hending, (congrArg TemplateFile.command hf).symm,
        (congrArg TemplateFile.path hf).symm⟩
    · cases h
  · rintro ⟨rfl, hf⟩
    have hcond : (t.isFile (folder.join ⟨f.fileName⟩) &&
        isTemplateName front extension f.fileName) = true := by
      rw [Bool.and_eq_true, FileTree.isFile_join_iff hfolder hl hn, isTemplateName_iff]
      exact ⟨hf.file, hf.begins, hf.ending⟩
    rw [templateFile?, if_pos hcond, ← hf.command, ← hf.path]

theorem templateFiles_eq (hfolder : t.node folder = .ok (.folder entries)) :
    templateFiles t folder front extension =
      ((entries.map (·.1)).filterMap (templateFile? t folder front extension)).mergeSort
        fun a b => decide (a.fileName ≤ b.fileName) := by
  unfold templateFiles
  rw [FileTree.list_eq_ok_iff.mpr ⟨entries, hfolder, rfl⟩]
  rfl

theorem templateFile_names_nodup (hl : IsListing entries) :
    (((entries.map (·.1)).filterMap (templateFile? t folder front extension)).map
      (·.fileName)).Nodup := by
  refine List.pairwise_map.mpr (List.pairwise_filterMap.mpr (hl.distinct.imp ?_))
  intro a b hab f hf g hg
  rwa [templateFile?_eq_some hf, templateFile?_eq_some hg]

theorem mem_templateFiles_iff (hfolder : t.node folder = .ok (.folder entries))
    (hl : IsListing entries) :
    f ∈ templateFiles t folder front extension ↔ IsTemplate folder entries front extension f := by
  rw [templateFiles_eq hfolder, List.mem_mergeSort, List.mem_filterMap]
  constructor
  · rintro ⟨name, hname, hf⟩
    obtain ⟨e, he, rfl⟩ := List.mem_map.mp hname
    exact ((templateFile?_eq_some_iff hfolder hl (hl.named e he)).mp hf).2
  · intro hf
    obtain ⟨content, hm⟩ := hf.file
    exact ⟨f.fileName, List.mem_map_of_mem hm,
      (templateFile?_eq_some_iff hfolder hl (hl.named _ hm)).mpr ⟨rfl, hf⟩⟩

theorem templateFiles_increasing (hfolder : t.node folder = .ok (.folder entries))
    (hl : IsListing entries) :
    (templateFiles t folder front extension).Pairwise fun a b => a.fileName < b.fileName := by
  rw [templateFiles_eq hfolder]
  exact pairwise_lt_mergeSort (templateFile_names_nodup hl)

/-- Two strictly increasing lists of the same files are the same list. -/
theorem templateFiles_of_perm (hfolder : t.node folder = .ok (.folder entries))
    (hfolder' : t'.node folder = .ok (.folder entries')) (hl : IsListing entries)
    (hperm : entries'.Perm entries) :
    templateFiles t' folder front extension = templateFiles t folder front extension := by
  have hfiles : ∀ e ∈ entries.map (·.1), templateFile? t' folder front extension e =
      templateFile? t folder front extension e := by
    intro name hname
    obtain ⟨e, he, rfl⟩ := List.mem_map.mp hname
    have hisFile : t'.isFile (folder.join ⟨e.1⟩) = t.isFile (folder.join ⟨e.1⟩) := by
      rw [Bool.eq_iff_iff, FileTree.isFile_join_iff hfolder hl (hl.named e he),
        FileTree.isFile_join_iff hfolder' (hl.perm hperm) (hl.named e he)]
      simp only [hperm.mem_iff]
    rw [templateFile?, hisFile, templateFile?]
  rw [templateFiles_eq hfolder, templateFiles_eq hfolder', ← List.filterMap_congr hfiles]
  refine mergeSort_eq_of_perm ?_ ((hperm.map _).filterMap _)
  rw [List.filterMap_congr hfiles]
  exact templateFile_names_nodup hl

theorem discover_none_of_nil (h : templateFiles t folder front extension = [])
    (filter : Option String) :
    discover t folder front extension filter = .error (.noTemplates folder front) := by
  unfold discover
  rw [h]

theorem discover_none (h : templateFiles t folder front extension ≠ []) :
    discover t folder front extension none = .ok (templateFiles t folder front extension) := by
  unfold discover
  split
  · contradiction
  · rfl
  · contradiction

theorem discover_some (h : templateFiles t folder front extension ≠ []) (filter : String) :
    discover t folder front extension (some filter) =
      select (templateFiles t folder front extension) filter := by
  unfold discover
  split
  · contradiction
  · contradiction
  · rename_i heq _
    cases heq
    rfl

/-! ## Filters -/

variable {files found : List TemplateFile} {filter : String}

theorem isCalled_iff : f.isCalled name = true ↔ f.fileName = name ∨ f.command = name := by
  simp [TemplateFile.isCalled]

theorem select_eq_noMatch_iff :
    select files filter = .error (.noMatch filter) ↔
      ∀ f ∈ files, ¬ filter.toList <:+: f.fileName.toList ∧ f.fileName ≠ filter ∧
        f.command ≠ filter := by
  have hnone : files.find? (·.isCalled filter) = none ↔
      ∀ f ∈ files, f.fileName ≠ filter ∧ f.command ≠ filter := by
    simp [TemplateFile.isCalled]
  have hempty : (files.filter fun f => contains filter.toList f.fileName.toList) = [] ↔
      ∀ f ∈ files, ¬ filter.toList <:+: f.fileName.toList := by
    simp only [List.filter_eq_nil_iff, contains_iff]
  unfold select
  split
  · rename_i file hfile
    refine iff_of_false (by simp) fun h => ?_
    obtain ⟨-, hname⟩ := h file (List.mem_of_find?_eq_some hfile)
    have hcalled := List.find?_some hfile
    rw [isCalled_iff] at hcalled
    rcases hcalled with h | h
    · exact hname.1 h
    · exact hname.2 h
  · rename_i hcalled
    have hcalled := hnone.mp hcalled
    split
    · rename_i hcontains
      have hcontains := hempty.mp hcontains
      exact iff_of_true rfl fun f hf => ⟨hcontains f hf, hcalled f hf⟩
    · rename_i hcontains
      refine iff_of_false (by simp) fun h => hcontains ?_
      exact hempty.mpr fun f hf => (h f hf).1

theorem select_sublist (h : select files filter = .ok found) : found ≠ [] ∧ found.Sublist files := by
  unfold select at h
  split at h
  · rename_i file hfile
    cases h
    exact ⟨by simp, List.singleton_sublist.mpr (List.mem_of_find?_eq_some hfile)⟩
  · split at h
    · cases h
    · rename_i hne
      cases h
      exact ⟨hne, List.filter_sublist⟩

theorem select_cases (files : List TemplateFile) (filter : String) :
    (∃ found, select files filter = .ok found) ∨ select files filter = .error (.noMatch filter) := by
  unfold select
  split
  · exact .inl ⟨_, rfl⟩
  · split
    · exact .inr rfl
    · exact .inl ⟨_, rfl⟩

/-! ## Discovery -/

/-- **Discovery.** Without a filter a folder gives the files with the names of templates, strictly
increasing by name and in whatever order it lists them, or says that there is none. Their names can
be made again from their commands, and commands are read back from full names. A filter gives some
of these files in their order, or says that none has it in its name or is called by it. -/
theorem discover_complete (hfolder : t.node folder = .ok (.folder entries))
    (hl : IsListing entries) (front extension : String) :
    ∃ files : List TemplateFile,
      (files.Pairwise fun a b => a.fileName < b.fileName) ∧
      (∀ f, f ∈ files ↔ IsTemplate folder entries front extension f) ∧
      discover t folder front extension none =
        (if files = [] then .error (.noTemplates folder front) else .ok files) ∧
      (∀ f ∈ files, f.fileName = bareName f.command extension ∨
        f.fileName = fullName front f.command extension) ∧
      (∀ command ≠ "", commandName (fullName front command extension) front extension = command) ∧
      (∀ filter, files ≠ [] →
        ((∃ found, discover t folder front extension (some filter) = .ok found ∧ found ≠ [] ∧
            found.Sublist files) ∨
          discover t folder front extension (some filter) = .error (.noMatch filter)) ∧
        (discover t folder front extension (some filter) = .error (.noMatch filter) ↔
          ∀ f ∈ files, ¬ filter.toList <:+: f.fileName.toList ∧ f.fileName ≠ filter ∧
            f.command ≠ filter)) ∧
      (∀ t' entries', t'.node folder = .ok (.folder entries') → entries'.Perm entries →
        ∀ filter, discover t' folder front extension filter =
          discover t folder front extension filter) := by
  refine ⟨templateFiles t folder front extension, templateFiles_increasing hfolder hl,
    fun f => mem_templateFiles_iff hfolder hl, ?unfiltered, ?names, fun _ => commandName_fullName,
    fun filter hne => ?filtered, fun t' entries' hfolder' hperm filter => ?order⟩
  case unfiltered =>
    split
    · rename_i hnil
      exact discover_none_of_nil hnil none
    · rename_i hne
      exact discover_none hne
  case names =>
    intro f hf
    have hf := (mem_templateFiles_iff hfolder hl).mp hf
    rw [hf.command]
    exact eq_name_of_command front hf.ending
  case filtered =>
    rw [discover_some hne]
    refine ⟨?_, select_eq_noMatch_iff⟩
    rcases select_cases (templateFiles t folder front extension) filter with ⟨found, h⟩ | h
    · exact .inl ⟨found, h, select_sublist h⟩
    · exact .inr h
  case order =>
    unfold discover
    rw [templateFiles_of_perm hfolder hfolder' hl hperm]

/-! ## A folder out of order -/

def templateEntries : List (String × Node) :=
  [("ios_show_version.fsm", .file (some "v")), ("readme.md", .file none),
    ("ios_archive.fsm", .folder []), ("ios_show_clock.fsm", .file (some "c"))]

def templateTree : FileTree where
  root := .folder [("templates", .folder templateEntries)]

theorem templateEntries_listing : IsListing templateEntries where
  named := by decide
  distinct := by decide

theorem discover_complete_templates :
    templateTree.node ⟨"templates"⟩ = .ok (.folder templateEntries) ∧ IsListing templateEntries ∧
      ∃ files, discover templateTree ⟨"templates"⟩ "ios" "fsm" none = .ok files ∧
        (files.Pairwise fun a b => a.fileName < b.fileName) ∧
        (∀ f, f ∈ files ↔ IsTemplate ⟨"templates"⟩ templateEntries "ios" "fsm" f) ∧
        ⟨"ios_show_clock.fsm", "show_clock", ⟨"templates/ios_show_clock.fsm"⟩⟩ ∈ files := by
  have hfolder : templateTree.node ⟨"templates"⟩ = .ok (.folder templateEntries) := rfl
  obtain ⟨files, hsorted, hmem, hfiles, -⟩ :=
    discover_complete hfolder templateEntries_listing "ios" "fsm"
  have hclock : ⟨"ios_show_clock.fsm", "show_clock", ⟨"templates/ios_show_clock.fsm"⟩⟩ ∈ files := by
    rw [hmem]
    exact ⟨⟨some "c", by simp [templateEntries]⟩, by decide, by decide, by decide +kernel,
      by decide +kernel⟩
  rw [if_neg (List.ne_nil_of_mem hclock)] at hfiles
  exact ⟨hfolder, templateEntries_listing, files, hfiles, hsorted, hmem, hclock⟩

end TemplateBench
