import TemplateBench.Proofs.Suite.Discovered

/-!
Which template a file name or a command selects.

* `select_first`: of the templates called by a name the first one by file name is selected.
* `eq_or_shared`: only the two names `<command>.<extension>` and `<prefix>_<command>.<extension>`
  may share a command.
* `discover_called`: the file name and the command of a template select it alone, unless one before
  it is called by them. A command with the extension that does not begin with the prefix is nobody
  else's.
* `discover_shared`: a folder in which the command of a template, and even its file name, select
  others.
-/
namespace TemplateBench
open Text

variable {t : FileTree} {folder : Path} {entries : List (String × Node)}
  {front extension name : String} {files : List TemplateFile} {f g : TemplateFile}

theorem select_first (h : files.Pairwise fun a b => a.fileName < b.fileName) (hg : g ∈ files)
    (hcalled : g.fileName = name ∨ g.command = name)
    (hfirst : ∀ a ∈ files, a.fileName < g.fileName → a.fileName ≠ name ∧ a.command ≠ name) :
    select files name = .ok [g] := by
  have hfound : files.find? (·.isCalled name) = some g := by
    refine (find?_eq_some_iff_first h).mpr ⟨hg, isCalled_iff.mpr hcalled, fun a ha hlt => ?_⟩
    obtain ⟨hname, hcommand⟩ := hfirst a ha hlt
    simp [TemplateFile.isCalled, hname, hcommand]
  rw [select, hfound]

/-- The template files with one command are at most two. -/
theorem eq_or_shared (hf : IsTemplate folder entries front extension f)
    (hg : IsTemplate folder entries front extension g) (h : g.command = f.command) :
    g = f ∨
      (f.fileName = bareName f.command extension ∧ g.fileName = fullName front f.command extension) ∨
      (f.fileName = fullName front f.command extension ∧ g.fileName = bareName f.command extension) := by
  have heq (hname : g.fileName = f.fileName) : g = f := by
    have hpath : g.path = f.path := by rw [hg.path, hf.path, hname]
    cases f
    cases g
    simp_all
  have hfname := eq_name_of_command front hf.ending
  have hgname := eq_name_of_command front hg.ending
  rw [← hf.command] at hfname
  rw [← hg.command, h] at hgname
  rcases hfname with hfname | hfname <;> rcases hgname with hgname | hgname
  · exact .inl (heq (hgname.trans hfname.symm))
  · exact .inr (.inl ⟨hfname, hgname⟩)
  · exact .inr (.inr ⟨hfname, hgname⟩)
  · exact .inl (heq (hgname.trans hfname.symm))

/-- Some template file has the least file name among those with a property. -/
theorem exists_first (h : files.Pairwise fun a b => a.fileName < b.fileName)
    {p : TemplateFile → Bool} (hf : f ∈ files) (hp : p f = true) :
    ∃ g ∈ files, p g = true ∧ (∀ a ∈ files, a.fileName < g.fileName → p a = false) ∧
      ∀ a ∈ files, p a = true → g.fileName ≤ a.fileName := by
  have hfound : (files.find? p).isSome = true := List.find?_isSome.mpr ⟨f, hf, hp⟩
  obtain ⟨g, hg⟩ := Option.isSome_iff_exists.mp hfound
  obtain ⟨hmem, hgp, hfirst⟩ := (find?_eq_some_iff_first h).mp hg
  refine ⟨g, hmem, hgp, hfirst, fun a ha hap => ?_⟩
  refine String.not_lt.mp fun hlt => ?_
  rw [hfirst a ha hlt] at hap
  cases hap

theorem templateFiles_of_discover (h : discover t folder front extension none = .ok files) :
    files = templateFiles t folder front extension ∧ templateFiles t folder front extension ≠ [] := by
  by_cases hnil : templateFiles t folder front extension = []
  · rw [discover_none_of_nil hnil none] at h
    cases h
  · rw [discover_none hnil] at h
    cases h
    exact ⟨rfl, hnil⟩

/-! ## Templates that share their names -/

def sharedEntries : List (String × Node) :=
  [("iosx.fsm", .file (some "3")), ("ios_iosx.fsm.fsm", .file (some "2")),
    ("ios_iosx.fsm", .file (some "1"))]

def sharedTree : FileTree where
  root := .folder [("templates", .folder sharedEntries)]

/-- A template whose command and file name are the commands of two templates before it. -/
def iosx : TemplateFile := ⟨"iosx.fsm", "iosx", ⟨"templates/iosx.fsm"⟩⟩

def sharedTemplates : List TemplateFile :=
  [⟨"ios_iosx.fsm", "iosx", ⟨"templates/ios_iosx.fsm"⟩⟩,
    ⟨"ios_iosx.fsm.fsm", "iosx.fsm", ⟨"templates/ios_iosx.fsm.fsm"⟩⟩, iosx]

theorem sharedEntries_listing : IsListing sharedEntries where
  named := by decide
  distinct := by decide

theorem templateFiles_shared :
    templateFiles sharedTree ⟨"templates"⟩ "ios" "fsm" = sharedTemplates := by
  have hfiles : (sharedEntries.map (·.1)).filterMap
      (templateFile? sharedTree ⟨"templates"⟩ "ios" "fsm") = sharedTemplates.reverse := by
    decide +kernel
  have hdistinct : (sharedTemplates.map (·.fileName)).Nodup := by decide
  have hfolder : sharedTree.node ⟨"templates"⟩ = .ok (.folder sharedEntries) := rfl
  rw [templateFiles_eq hfolder, hfiles,
    mergeSort_eq_of_perm hdistinct (List.reverse_perm sharedTemplates)]
  exact List.mergeSort_of_pairwise (by decide +kernel)

theorem discover_shared_none :
    discover sharedTree ⟨"templates"⟩ "ios" "fsm" none = .ok sharedTemplates := by
  unfold discover
  rw [templateFiles_shared]
  rfl

/-! ## Selection -/

/-- **Names select.** Among the templates that a folder gives, the file name of one selects it
alone, unless one before it has that name as its command, and so does its command, unless one before
it is called by that. A command that is no file name selects the first template with it. The
templates with one command are at most two, and only one if the command with the extension does not
begin with the prefix. -/
theorem discover_called (hfolder : t.node folder = .ok (.folder entries)) (hl : IsListing entries)
    (hfiles : discover t folder front extension none = .ok files) (hf : f ∈ files) :
    ((∀ g ∈ files, g.fileName < f.fileName → g.command ≠ f.fileName) →
      discover t folder front extension (some f.fileName) = .ok [f]) ∧
    ((∀ g ∈ files, g.fileName < f.fileName → g.command ≠ f.command ∧ g.fileName ≠ f.command) →
      discover t folder front extension (some f.command) = .ok [f]) ∧
    ((∀ g ∈ files, g.fileName ≠ f.command) →
      ∃ g ∈ files, g.command = f.command ∧
        (∀ a ∈ files, a.command = f.command → g.fileName ≤ a.fileName) ∧
        discover t folder front extension (some f.command) = .ok [g]) ∧
    (∀ g ∈ files, g.command = f.command → g = f ∨
      (f.fileName = bareName f.command extension ∧ g.fileName = fullName front f.command extension) ∨
      (f.fileName = fullName front f.command extension ∧ g.fileName = bareName f.command extension)) ∧
    (¬ front.toList <+: (bareName f.command extension).toList →
      discover t folder front extension (some f.command) = .ok [f]) := by
  obtain ⟨rfl, hne⟩ := templateFiles_of_discover hfiles
  have hsorted : (templateFiles t folder front extension).Pairwise
      fun a b => a.fileName < b.fileName := templateFiles_increasing hfolder hl
  have hmem {g : TemplateFile} (hg : g ∈ templateFiles t folder front extension) :=
    (mem_templateFiles_iff hfolder hl).mp hg
  have hcommand (h : ∀ g ∈ templateFiles t folder front extension, g.fileName < f.fileName →
      g.command ≠ f.command ∧ g.fileName ≠ f.command) :
      discover t folder front extension (some f.command) = .ok [f] := by
    rw [discover_some hne]
    exact select_first hsorted hf (.inr rfl) fun g hg hlt => (h g hg hlt).symm
  have hshared {g : TemplateFile} (hg : g ∈ templateFiles t folder front extension) :=
    eq_or_shared (hmem hf) (hmem hg)
  refine ⟨fun h => ?_, hcommand, fun h => ?_, fun g hg => hshared hg, fun h => hcommand ?_⟩
  · rw [discover_some hne]
    exact select_first hsorted hf (.inl rfl) fun g hg hlt =>
      ⟨fun he => String.lt_irrefl _ (he ▸ hlt), h g hg hlt⟩
  · obtain ⟨g, hg, hp, hbefore, hleast⟩ :=
      exists_first hsorted (p := fun a => a.command == f.command) hf (beq_self_eq_true _)
    refine ⟨g, hg, beq_iff_eq.mp hp, fun a ha he => hleast a ha (beq_iff_eq.mpr he), ?_⟩
    rw [discover_some hne]
    exact select_first hsorted hg (.inr (beq_iff_eq.mp hp)) fun a ha hlt =>
      ⟨h a ha, beq_eq_false_iff_ne.mp (hbefore a ha hlt)⟩
  · -- Whoever else is called by the command begins with the prefix.
    intro g hg hlt
    refine ⟨fun he => ?_, fun he => h ?_⟩
    · rcases hshared hg he with rfl | ⟨hfname, -⟩ | ⟨-, hgname⟩
      · exact String.lt_irrefl _ hlt
      · exact h (hfname ▸ (hmem hf).begins)
      · exact h (hgname ▸ (hmem hg).begins)
    · have hbegins : front.toList <+: f.command.toList := he ▸ (hmem hg).begins
      refine hbegins.trans ⟨'.' :: extension.toList, ?_⟩
      simp [bareName]

theorem discover_called_iosx :
    sharedTree.node ⟨"templates"⟩ = .ok (.folder sharedEntries) ∧ IsListing sharedEntries ∧
      discover sharedTree ⟨"templates"⟩ "ios" "fsm" none = .ok sharedTemplates ∧
      iosx ∈ sharedTemplates ∧ (∀ g ∈ sharedTemplates, g.fileName ≠ iosx.command) ∧
      ∃ g ∈ sharedTemplates, g.command = iosx.command ∧
        (∀ a ∈ sharedTemplates, a.command = iosx.command → g.fileName ≤ a.fileName) ∧
        discover sharedTree ⟨"templates"⟩ "ios" "fsm" (some iosx.command) = .ok [g] := by
  have hfolder : sharedTree.node ⟨"templates"⟩ = .ok (.folder sharedEntries) := rfl
  have hmem : iosx ∈ sharedTemplates := by decide
  have hnames : ∀ g ∈ sharedTemplates, g.fileName ≠ iosx.command := by decide
  obtain ⟨-, -, hleast, -⟩ :=
    discover_called hfolder sharedEntries_listing discover_shared_none hmem
  exact ⟨hfolder, sharedEntries_listing, discover_shared_none, hmem, hnames, hleast hnames⟩

/-- The command of a template, and even its file name, may select another one. -/
theorem discover_shared :
    discover sharedTree ⟨"templates"⟩ "ios" "fsm" none = .ok sharedTemplates ∧
      iosx ∈ sharedTemplates ∧
      discover sharedTree ⟨"templates"⟩ "ios" "fsm" (some iosx.command) =
        .ok [⟨"ios_iosx.fsm", "iosx", ⟨"templates/ios_iosx.fsm"⟩⟩] ∧
      discover sharedTree ⟨"templates"⟩ "ios" "fsm" (some iosx.fileName) =
        .ok [⟨"ios_iosx.fsm.fsm", "iosx.fsm", ⟨"templates/ios_iosx.fsm.fsm"⟩⟩] := by
  have hne : templateFiles sharedTree ⟨"templates"⟩ "ios" "fsm" ≠ [] := by
    rw [templateFiles_shared]
    decide
  refine ⟨discover_shared_none, by decide, ?_, ?_⟩
  · rw [discover_some hne, templateFiles_shared]
    rfl
  · rw [discover_some hne, templateFiles_shared]
    rfl

end TemplateBench
