import TemplateBench.Proofs.Batch.Sequential

/-!
The fixture that a report names.

* `BreaksDown`: both texts of a template can be read, and the engine breaks down on them.
* `Reports.names`: a report names the fixture that is located, unless the engine broke down.
* `evaluate_fixture`: so a report without a fixture is one of a skipped template or of an engine
  that broke down, and a template that passes was applied to the text of the named fixture.
* `evaluate_unnamed`: an engine that breaks down on a fixture leaves a report that does not name it.
-/
namespace TemplateBench.Bench

variable {b : Bench} {t : FileTree} {file : TemplateFile}

def BreaksDown (b : Bench) (t : FileTree) (file : TemplateFile) : Prop :=
  ∃ fixture source template c, b.Supplied t file fixture source template ∧
    b.engine.apply source template = .crashed c

/-! ## Texts of a template -/

/-- A template has one fixture and one pair of texts. -/
theorem Supplied.unique {fixture fixture' : Path} {source source' template template' : String}
    (h : b.Supplied t file fixture source template)
    (h' : b.Supplied t file fixture' source' template') :
    fixture = fixture' ∧ source = source' ∧ template = template' := by
  obtain rfl : fixture = fixture' := Option.some.inj (h.located.symm.trans h'.located)
  exact ⟨rfl, Except.ok.inj (h.source.symm.trans h'.source),
    Except.ok.inj (h.template.symm.trans h'.template)⟩

theorem Supplied.breaksDown_iff {fixture : Path} {source template : String}
    (h : b.Supplied t file fixture source template) :
    b.BreaksDown t file ↔ ∃ c, b.engine.apply source template = .crashed c := by
  constructor
  · rintro ⟨fixture', source', template', c, h', hc⟩
    obtain ⟨-, rfl, rfl⟩ := h.unique h'
    exact ⟨c, hc⟩
  · rintro ⟨c, hc⟩
    exact ⟨fixture, source, template, c, h, hc⟩

/-! ## An engine that breaks down -/

/-- An engine that always breaks down, at the vendor of `Fixtures.sampleTree`. -/
def crashingBench : Bench where
  engine := ⟨"crashing", .ttp, fun _ _ => .crashed (.message "boom"), ("", "")⟩
  fixtures := Fixtures.sampleFixtures
  vendor := "cisco"

def versionFile : TemplateFile := ⟨"show_ver.ttp", "show_ver", ⟨"tests/cisco/stray.raw"⟩⟩

theorem prepare_versionFile :
    crashingBench.prepare Fixtures.sampleTree versionFile =
      .ready ⟨"tests/cisco/show_version/v.raw"⟩ "v" "s" :=
  prepare_supplied ⟨Fixtures.locate_sampleTree_version, by rfl, by rfl⟩

/-! ## Reports -/

/-- A report names the located fixture and is one of a skipped template if there is none, unless
the engine broke down. -/
theorem Reports.names {r : Report} (h : b.Reports t file r) :
    (¬ b.BreaksDown t file ∧ r.fixture = b.fixtures.locate t b.vendor file.command ∧
        ((∃ reason, r.outcome = .skipped reason) ↔ r.fixture = none)) ∨
      (b.BreaksDown t file ∧ r.fixture = none ∧
        (∃ fixture, b.fixtures.locate t b.vendor file.command = some fixture) ∧
        ∃ c, r.outcome = TemplateBench.Bench.crashed c) := by
  cases h with
  | skipped hl =>
    refine .inl ⟨?_, hl.symm, by simp⟩
    rintro ⟨fixture, source, template, c, hs, -⟩
    cases hl.symm.trans hs.located
  | unreadableTemplate hl ht =>
    refine .inl ⟨?_, hl.symm, by simp⟩
    rintro ⟨fixture, source, template, c, hs, -⟩
    cases ht.symm.trans hs.template
  | unreadableFixture hl ht hf =>
    refine .inl ⟨?_, hl.symm, by simp⟩
    rintro ⟨fixture, source, template, c, hs, -⟩
    cases hl.symm.trans hs.located
    cases hf.symm.trans hs.source
  | failed hs hr => exact .inl ⟨by simp [hs.breaksDown_iff, hr], hs.located.symm, by simp⟩
  | crashed hs hr hp =>
    cases payload_iff.mp hp
    exact .inr ⟨hs.breaksDown_iff.mpr ⟨_, hr⟩, rfl, ⟨_, hs.located⟩, _, rfl⟩
  | passed _ hs hr _ => exact .inl ⟨by simp [hs.breaksDown_iff, hr], hs.located.symm, by simp⟩

/-- **Reports name their fixtures.** A report names a fixture if it is the one that is located and
the engine did not break down on it. It names none if the template was skipped or the engine broke
down; then a fixture was located, and the report is one of a failure. A template that passes was
applied to the text of the fixture that its report names. -/
theorem evaluate_fixture (b : Bench) (t : FileTree) (elapsed : Float) (file : TemplateFile) :
    (∀ fixture, (b.evaluate t elapsed file).report.fixture = some fixture ↔
      b.fixtures.locate t b.vendor file.command = some fixture ∧ ¬ b.BreaksDown t file) ∧
    ((b.evaluate t elapsed file).report.fixture = none ↔
      (∃ reason, (b.evaluate t elapsed file).report.outcome = .skipped reason) ∨
        b.BreaksDown t file) ∧
    (b.BreaksDown t file →
      (∃ fixture, b.fixtures.locate t b.vendor file.command = some fixture) ∧
      ∃ c : Crash, (b.evaluate t elapsed file).report.outcome =
        .failure ("Engine panicked: " ++ c.text) (some c.text)) ∧
    (∀ count time, (b.evaluate t elapsed file).report.outcome = .success count time →
      ∃ fixture source template output,
        (b.evaluate t elapsed file).report.fixture = some fixture ∧
        t.read fixture = .ok source ∧ t.read file.path = .ok template ∧
        b.engine.apply source template = .done output ∧ count = output.recordCount) := by
  have h := b.reports_evaluate t elapsed file
  refine ⟨fun fixture => ?named, ?unnamed, fun hb => ?broken, fun count time hpass => ?passed⟩
  case named =>
    rcases h.names with ⟨hb, hf, -⟩ | ⟨hb, hf, -⟩
    · simp [hf, hb]
    · simp [hf, hb]
  case unnamed =>
    rcases h.names with ⟨hb, -, hskip⟩ | ⟨hb, hf, -⟩
    · simp [hskip, hb]
    · simp [hf, hb]
  case broken =>
    rcases h.names with ⟨hn, -⟩ | ⟨-, -, hlocated, c, hc⟩
    · exact absurd hb hn
    · exact ⟨hlocated, c, hc⟩
  case passed =>
    generalize (b.evaluate t elapsed file).report = r at h hpass ⊢
    cases h with
    | @passed fixture source template output _ _ hs hr _ =>
      cases hpass
      exact ⟨fixture, source, template, output, rfl, hs.source, hs.template, hr, rfl⟩
    | _ => cases hpass

/-- An engine that fails without breaking down, at the vendor of `Fixtures.sampleTree`. -/
def refusingBench : Bench :=
  { crashingBench with engine := ⟨"refusing", .ttp, fun _ _ => .failed ⟨.parse, "no"⟩, ("", "")⟩ }

theorem evaluate_fixture_version :
    ¬ refusingBench.BreaksDown Fixtures.sampleTree versionFile ∧
      (refusingBench.evaluate Fixtures.sampleTree 1 versionFile).report.fixture =
        some ⟨"tests/cisco/show_version/v.raw"⟩ := by
  have hunbroken : ¬ refusingBench.BreaksDown Fixtures.sampleTree versionFile := by
    rintro ⟨_, _, _, _, -, hc⟩
    cases hc
  exact ⟨hunbroken, ((evaluate_fixture refusingBench Fixtures.sampleTree 1 versionFile).1 _).mpr
    ⟨Fixtures.locate_sampleTree_version, hunbroken⟩⟩

/-- A fixture is located and the template is not skipped, and still its report names no fixture. -/
theorem evaluate_unnamed :
    crashingBench.fixtures.locate Fixtures.sampleTree crashingBench.vendor versionFile.command =
        some ⟨"tests/cisco/show_version/v.raw"⟩ ∧
      (crashingBench.evaluate Fixtures.sampleTree 1 versionFile).report.fixture = none ∧
      (crashingBench.evaluate Fixtures.sampleTree 1 versionFile).report.outcome =
        .failure "Engine panicked: boom" (some "boom") := by
  refine ⟨Fixtures.locate_sampleTree_version, ?_, ?_⟩
  · rw [evaluate, prepare_versionFile]
    rfl
  · rw [evaluate, prepare_versionFile]
    rfl

end TemplateBench.Bench
