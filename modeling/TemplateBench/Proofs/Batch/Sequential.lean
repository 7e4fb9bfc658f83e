import Mathlib.Data.List.Forall2
import TemplateBench.Batch.Run
import TemplateBench.Proofs.Batch.Statistics
import TemplateBench.Proofs.Suite.Confined
import TemplateBench.Proofs.Suite.Sidecar

/-!
Running a batch one template after the other.

* `Bench.Reports`: the rules by which a template is reported. They speak of its own files, the
  reply of the engine and the sidecar, and of no other template.
* `reports_evaluate`, `Reports.untimed_eq`: evaluating a template follows them, and they leave
  nothing open but the time.
* `reports_unchecked_iff`: a sidecar that cannot be used leaves a report as it is without checks.
* `ofReports_append`: statistics of two batches in a row are those of each, put together.
* `runSequential_reports`: a fault in one template is reported with it and reaches no other.
-/
namespace TemplateBench

/-! ## Statistics of two batches -/

namespace Statistics

/-- Counts are added up, and entries come one batch after the other. -/
def append (s s' : Statistics) : Statistics where
  total := s.total + s'.total
  success := s.success + s'.success
  failed := s.failed + s'.failed
  skipped := s.skipped + s'.skipped
  timings := s.timings ++ s'.timings
  errors := s.errors ++ s'.errors
  mismatches := s.mismatches ++ s'.mismatches

theorem ofReports_append (xs ys : List Report) :
    ofReports (xs ++ ys) = (ofReports xs).append (ofReports ys) := by
  simp [ofReports_eq, append]

end Statistics

namespace Bench

/-! ## Rules -/

/-- A template with a fixture, when both can be read. -/
structure Supplied (b : Bench) (t : FileTree) (file : TemplateFile) (fixture : Path)
    (source template : String) : Prop where
  located : b.fixtures.locate t b.vendor file.command = some fixture
  template : t.read file.path = .ok template
  source : t.read fixture = .ok source

/-- How a report puts what an engine leaves behind when it breaks down. -/
inductive Payload : Crash → String → Prop
  | message (s : String) : Payload (.message s) s
  | silent : Payload .silent "unknown panic payload"

/-- A sidecar declares another number of records than there are. -/
structure Differs (b : Bench) (t : FileTree) (fixture : Path) (count : Nat) (m : Mismatch) :
    Prop where
  checked : b.checkExpected = true
  actual : m.actual = count
  expected : m.expected ≠ count
  declared : Expects t fixture m.expected

/-- The rules by which a template is reported. -/
inductive Reports (b : Bench) (t : FileTree) (file : TemplateFile) : Report → Prop
  | skipped : b.fixtures.locate t b.vendor file.command = none →
      Reports b t file ⟨file, none, .skipped "No matching fixture file found", none⟩
  | unreadableTemplate {fixture : Path} {e : FileError} :
      b.fixtures.locate t b.vendor file.command = some fixture → t.read file.path = .error e →
      Reports b t file ⟨file, some fixture,
        .failure ("Failed to read " ++ file.path.text ++ ": " ++ e.message) (some e.message), none⟩
  | unreadableFixture {fixture : Path} {template : String} {e : FileError} :
      b.fixtures.locate t b.vendor file.command = some fixture → t.read file.path = .ok template →
      t.read fixture = .error e →
      Reports b t file ⟨file, some fixture,
        .failure ("Failed to read " ++ fixture.text ++ ": " ++ e.message) (some e.message), none⟩
  | failed {fixture : Path} {source template : String} {e : EngineError} :
      b.Supplied t file fixture source template → b.engine.apply source template = .failed e →
      Reports b t file ⟨file, some fixture,
        .failure e.message (some (e.category.name ++ " error: " ++ e.message)), none⟩
  | crashed {fixture : Path} {source template : String} {c : Crash} {payload : String} :
      b.Supplied t file fixture source template → b.engine.apply source template = .crashed c →
      Payload c payload →
      Reports b t file ⟨file, none,
        .failure ("Engine panicked: " ++ payload) (some payload), none⟩
  | passed {fixture : Path} {source template : String} {output : Output} (elapsed : Float)
      {mismatch : Option Mismatch} :
      b.Supplied t file fixture source template → b.engine.apply source template = .done output →
      (∀ m, mismatch = some m ↔ b.Differs t fixture output.recordCount m) →
      Reports b t file ⟨file, some fixture, .success output.recordCount elapsed, mismatch⟩

variable {b : Bench} {t : FileTree} {file : TemplateFile}

/-! ## Mismatches -/

theorem mismatch?_eq_some_iff {fixture : Path} {count : Nat} {m : Mismatch} :
    mismatch? t fixture count = some m ↔
      m.actual = count ∧ m.expected ≠ count ∧ Expects t fixture m.expected := by
  obtain ⟨expected, actual⟩ := m
  rw [expects_iff]
  unfold mismatch?
  cases hs : sidecar? t fixture with
  | none => simp
  | some sidecar =>
    simp only [Option.map_some, Option.some.injEq, exists_eq_left']
    rcases expectedCount t sidecar with e | _ | declared
    · simp
    · simp
    · by_cases hd : declared = count
      · simp only [hd, if_true, reduceCtorEq, Except.ok.injEq, Option.some.injEq, false_iff]
        rintro ⟨_, hne, rfl⟩
        exact hne rfl
      · simp only [hd, if_false, Option.some.injEq, Mismatch.mk.injEq, Except.ok.injEq]
        constructor
        · rintro ⟨rfl, rfl⟩
          exact ⟨rfl, hd, rfl⟩
        · rintro ⟨rfl, _, rfl⟩
          exact ⟨rfl, rfl⟩

theorem differs_iff {fixture : Path} {count : Nat} {m : Mismatch} :
    (if b.checkExpected then mismatch? t fixture count else none) = some m ↔
      b.Differs t fixture count m := by
  constructor
  · intro h
    obtain ⟨hchecked, hm⟩ := Option.ite_none_right_eq_some.mp h
    obtain ⟨hactual, hexpected, hdeclared⟩ := mismatch?_eq_some_iff.mp hm
    exact ⟨hchecked, hactual, hexpected, hdeclared⟩
  · intro h
    rw [if_pos h.checked]
    exact mismatch?_eq_some_iff.mpr ⟨h.actual, h.expected, h.declared⟩

/-! ## Evaluations -/

theorem payload_iff {c : Crash} {payload : String} : Payload c payload ↔ c.text = payload := by
  constructor
  · rintro (s | _)
    · rfl
    · rfl
  · rintro rfl
    cases c with
    | message s => exact .message s
    | silent => exact .silent

theorem reports_evaluate (b : Bench) (t : FileTree) (elapsed : Float) (file : TemplateFile) :
    b.Reports t file (b.evaluate t elapsed file).report := by
  unfold evaluate prepare
  cases hl : b.fixtures.locate t b.vendor file.command with
  | none => exact .skipped hl
  | some fixture =>
    dsimp only
    cases ht : t.read file.path with
    | error e => exact .unreadableTemplate hl ht
    | ok template =>
      dsimp only
      cases hs : t.read fixture with
      | error e => exact .unreadableFixture hl ht hs
      | ok source =>
        have hsupplied : b.Supplied t file fixture source template := ⟨hl, ht, hs⟩
        dsimp only [conclude]
        cases hr : b.engine.apply source template with
        | done output => exact .passed elapsed hsupplied hr fun m => differs_iff
        | failed e => exact .failed hsupplied hr
        | crashed c => exact .crashed hsupplied hr (payload_iff.mpr rfl)

theorem prepare_supplied {fixture : Path} {source template : String}
    (h : b.Supplied t file fixture source template) :
    b.prepare t file = .ready fixture source template := by
  simp [prepare, h.located, h.template, h.source]

theorem evaluate_done {fixture : Path} {source template : String} {output : Output}
    (elapsed : Float) (h : b.Supplied t file fixture source template)
    (hr : b.engine.apply source template = .done output) :
    (b.evaluate t elapsed file).report = ⟨file, some fixture, .success output.recordCount elapsed,
      if b.checkExpected then mismatch? t fixture output.recordCount else none⟩ := by
  rw [evaluate, prepare_supplied h]
  simp only [conclude, hr]

theorem evaluate_crashed {fixture : Path} {source template : String} {c : Crash}
    (elapsed : Float) (h : b.Supplied t file fixture source template)
    (hr : b.engine.apply source template = .crashed c) :
    (b.evaluate t elapsed file).report = ⟨file, none, crashed c, none⟩ := by
  rw [evaluate, prepare_supplied h]
  simp only [conclude, hr]

theorem evaluate_skipped (elapsed : Float)
    (h : b.fixtures.locate t b.vendor file.command = none) :
    (b.evaluate t elapsed file).report = ⟨file, none, .skipped noFixture, none⟩ := by
  rw [evaluate, prepare, h]

namespace Reports

variable {r r' : Report}

theorem untimed_evaluate (h : b.Reports t file r) :
    r.untimed = (b.evaluate t 0 file).report.untimed := by
  cases h with
  | skipped hl => rw [evaluate_skipped 0 hl, noFixture]
  | unreadableTemplate hl ht => simp [evaluate, prepare, hl, ht, readFailure]
  | unreadableFixture hl ht hs => simp [evaluate, prepare, hl, ht, hs, readFailure]
  | failed hs hr => simp [evaluate, prepare_supplied hs, conclude, hr]
  | crashed hs hr hp => rw [evaluate_crashed 0 hs hr, Bench.crashed, payload_iff.mp hp]
  | @passed fixture _ _ output elapsed mismatch hs hr hm =>
    have hmismatch : mismatch =
        if b.checkExpected then mismatch? t fixture output.recordCount else none := by
      apply Option.ext
      intro m
      rw [hm, differs_iff]
    rw [evaluate_done 0 hs hr, ← hmismatch]
    rfl

/-- The rules leave nothing open but the time that the engine takes. -/
theorem untimed_eq (h : b.Reports t file r) (h' : b.Reports t file r') : r.untimed = r'.untimed :=
  h.untimed_evaluate.trans h'.untimed_evaluate.symm

/-- Only a missing fixture skips a template. -/
theorem skipped_iff (h : b.Reports t file r) :
    (∃ reason, r.outcome = .skipped reason) ↔
      b.fixtures.locate t b.vendor file.command = none := by
  cases h with
  | skipped hl => simp [hl]
  | unreadableTemplate hl _ => simp [hl]
  | unreadableFixture hl _ _ => simp [hl]
  | failed hs _ => simp [hs.located]
  | crashed hs _ _ => simp [hs.located]
  | passed _ hs _ _ => simp [hs.located]

/-- A mismatch is found where a template passes and its sidecar declares another count. -/
theorem mismatch_iff (h : b.Reports t file r) (m : Mismatch) :
    r.mismatch = some m ↔
      ∃ count elapsed fixture, r.outcome = .success count elapsed ∧
        b.fixtures.locate t b.vendor file.command = some fixture ∧ b.Differs t fixture count m := by
  cases h with
  | passed elapsed hs _ hm => simp [hs.located, hm]
  | _ => simp

/-- Whether sidecars are looked at matters only where one of them declares another count. -/
theorem recheck (check : Bool)
    (hdiffers : ∀ fixture count m, b.fixtures.locate t b.vendor file.command = some fixture →
      (b.Differs t fixture count m ↔ { b with checkExpected := check }.Differs t fixture count m))
    (h : b.Reports t file r) : { b with checkExpected := check }.Reports t file r := by
  cases h with
  | skipped hl => exact .skipped hl
  | unreadableTemplate hl ht => exact .unreadableTemplate hl ht
  | unreadableFixture hl ht hs => exact .unreadableFixture hl ht hs
  | failed hs hr => exact .failed ⟨hs.located, hs.template, hs.source⟩ hr
  | crashed hs hr hp => exact .crashed ⟨hs.located, hs.template, hs.source⟩ hr hp
  | passed elapsed hs hr hm =>
    exact .passed elapsed ⟨hs.located, hs.template, hs.source⟩ hr
      fun m => (hm m).trans (hdiffers _ _ m hs.located)

end Reports

/-- A sidecar that cannot be used changes nothing. -/
theorem reports_unchecked_iff {fixture : Path} {r : Report}
    (hl : b.fixtures.locate t b.vendor file.command = some fixture) (hu : Unusable t fixture) :
    b.Reports t file r ↔ { b with checkExpected := false }.Reports t file r := by
  have hdiffers : ∀ (check : Bool) (fixture' : Path) (count : Nat) (m : Mismatch),
      b.fixtures.locate t b.vendor file.command = some fixture' →
      ¬ { b with checkExpected := check }.Differs t fixture' count m := by
    intro check fixture' count m hl' hd
    cases hl.symm.trans hl'
    exact hu.not_expects hd.declared
  constructor
  · exact .recheck false fun fixture' count m hl' =>
      iff_of_false (hdiffers b.checkExpected fixture' count m hl')
        (hdiffers false fixture' count m hl')
  · exact .recheck b.checkExpected fun fixture' count m hl' =>
      iff_of_false (hdiffers false fixture' count m hl')
        (hdiffers b.checkExpected fixture' count m hl')

/-! ## A vendor with sidecars -/

/-- The sidecar of `v.raw` declares two records, and that of `c.raw` is no YAML. -/
def checkedTree : FileTree where
  root := .folder [("ios.ttp", .file (some "")), ("tests", .folder [("cisco", .folder [
    ("show_clock", .folder [("c.raw", .file (some "c")), ("c.yml", .file (some "["))]),
    ("show_users", .folder [("u.raw", .file (some ""))]),
    ("show_version", .folder [("v.raw", .file (some "v")),
      ("v.yml", .file (some "- a\n- b\n"))])])])]

/-- An engine that gives back its text, and breaks down if there is none. -/
def checkingBench : Bench where
  engine := ⟨"echo", .ttp, fun source _ =>
    if source = "" then .crashed (.message "boom") else .done (.text source), ("", "")⟩
  fixtures := Fixtures.sampleFixtures
  vendor := "cisco"
  checkExpected := true

def checkedFile (command : String) : TemplateFile := ⟨command ++ ".ttp", command, ⟨"ios.ttp"⟩⟩

theorem supplied_clock :
    checkingBench.Supplied checkedTree (checkedFile "show_clock")
      ⟨"tests/cisco/show_clock/c.raw"⟩ "c" "" where
  located := Fixtures.locate_of_pairwise ["c.raw", "c.yml"] "c.raw" (by decide +kernel) (by rfl)
    (by decide +kernel) (by decide +kernel)
  template := by rfl
  source := by rfl

theorem supplied_users :
    checkingBench.Supplied checkedTree (checkedFile "show_users")
      ⟨"tests/cisco/show_users/u.raw"⟩ "" "" where
  located := Fixtures.locate_of_pairwise ["u.raw"] "u.raw" (by decide +kernel) (by rfl)
    (by decide +kernel) (by decide +kernel)
  template := by rfl
  source := by rfl

theorem supplied_version :
    checkingBench.Supplied checkedTree (checkedFile "show_version")
      ⟨"tests/cisco/show_version/v.raw"⟩ "v" "" where
  located := Fixtures.locate_of_pairwise ["v.raw", "v.yml"] "v.raw" (by decide +kernel) (by rfl)
    (by decide +kernel) (by decide +kernel)
  template := by rfl
  source := by rfl

theorem unlocated_route :
    checkingBench.fixtures.locate checkedTree checkingBench.vendor "ip_route" = none := by
  have hlist : checkedTree.list ⟨"tests/cisco"⟩ =
      .ok ["show_clock", "show_users", "show_version"] := by rfl
  have hsorted := Fixtures.sortedNames_of_pairwise
    (show ["show_clock", "show_users", "show_version"].Pairwise
      fun a b => decide (a ≤ b) = true by decide +kernel)
  have hexact : Fixtures.sampleFixtures.firstIn checkedTree ⟨"tests/cisco/ip_route"⟩ = none := by
    rfl
  have hnear : Fixtures.sampleFixtures.nearby checkedTree ⟨"tests/cisco"⟩ "ip_route" = none := by
    simp only [Fixtures.nearby, hlist, hsorted]
    decide +kernel
  refine (Fixtures.locate_of_not_blank (by decide +kernel)).trans ?_
  exact Option.or_eq_none_iff.mpr ⟨hexact, hnear⟩

theorem expects_version : Expects checkedTree ⟨"tests/cisco/show_version/v.raw"⟩ 2 :=
  expects_iff.mpr ⟨⟨"tests/cisco/show_version/v.yml"⟩, by decide +kernel, by decide +kernel⟩

theorem unusable_clock : Unusable checkedTree ⟨"tests/cisco/show_clock/c.raw"⟩ :=
  unusable_iff.mpr ⟨⟨"tests/cisco/show_clock/c.yml"⟩,
    .malformedExpectation ⟨"tests/cisco/show_clock/c.yml"⟩ .malformed,
    by decide +kernel, by decide +kernel⟩

theorem evaluate_version :
    (checkingBench.evaluate checkedTree 0 (checkedFile "show_version")).report =
      ⟨checkedFile "show_version", some ⟨"tests/cisco/show_version/v.raw"⟩, .success 1 0,
        some ⟨2, 1⟩⟩ := by
  have hreply : checkingBench.engine.apply "v" "" = .done (.text "v") := by rfl
  have hcount : (Output.text "v").recordCount = 1 := by decide +kernel
  have hmismatch : (if checkingBench.checkExpected then
      mismatch? checkedTree ⟨"tests/cisco/show_version/v.raw"⟩ 1 else none) = some ⟨2, 1⟩ :=
    differs_iff.mpr ⟨rfl, rfl, by decide, expects_version⟩
  rw [evaluate_done 0 supplied_version hreply, hcount, hmismatch]

theorem evaluate_clock :
    (checkingBench.evaluate checkedTree 0 (checkedFile "show_clock")).report =
      ⟨checkedFile "show_clock", some ⟨"tests/cisco/show_clock/c.raw"⟩, .success 1 0, none⟩ := by
  have hreply : checkingBench.engine.apply "c" "" = .done (.text "c") := by rfl
  have hcount : (Output.text "c").recordCount = 1 := by decide +kernel
  have hmismatch : (if checkingBench.checkExpected then
      mismatch? checkedTree ⟨"tests/cisco/show_clock/c.raw"⟩ 1 else none) = none := by
    refine Option.eq_none_iff_forall_ne_some.mpr fun m hm => ?_
    exact unusable_clock.not_expects (differs_iff.mp hm).declared
  rw [evaluate_done 0 supplied_clock hreply, hcount, hmismatch]

theorem evaluate_users :
    (checkingBench.evaluate checkedTree 0 (checkedFile "show_users")).report =
      ⟨checkedFile "show_users", none, .failure "Engine panicked: boom" (some "boom"), none⟩ := by
  have hreply : checkingBench.engine.apply "" "" = .crashed (.message "boom") := by rfl
  rw [evaluate_crashed 0 supplied_users hreply]
  rfl

theorem evaluate_route :
    (checkingBench.evaluate checkedTree 0 (checkedFile "ip_route")).report =
      ⟨checkedFile "ip_route", none, .skipped "No matching fixture file found", none⟩ :=
  evaluate_skipped 0 unlocated_route

/-! ## Batches -/

/-- **Faults stay with their template.** A batch that runs one template after the other reports
each of them once, in order, by rules that speak of this template alone and leave nothing open but
the time. A template is skipped if it has no fixture, and has a mismatch if it passes and its
sidecar declares another count; a sidecar that cannot be read, or is no YAML, leaves the report as
it is without checks. So the statistics of two lists of templates in a row are those of each list,
put together. -/
theorem runSequential_reports (b : Bench) (t : FileTree) (clock : Clock) :
    (∀ files, List.Forall₂ (b.Reports t) files
      ((b.runSequential t clock files).map (·.report))) ∧
    (∀ file r, b.Reports t file r →
      (∀ r', b.Reports t file r' → r.untimed = r'.untimed) ∧
      ((∃ reason, r.outcome = .skipped reason) ↔
        b.fixtures.locate t b.vendor file.command = none) ∧
      ∀ m, r.mismatch = some m ↔
        ∃ count elapsed fixture, r.outcome = .success count elapsed ∧
          b.fixtures.locate t b.vendor file.command = some fixture ∧
          b.Differs t fixture count m) ∧
    (∀ file fixture, b.fixtures.locate t b.vendor file.command = some fixture →
      Unusable t fixture →
      ∀ r, b.Reports t file r ↔ { b with checkExpected := false }.Reports t file r) ∧
    ∀ xs ys, Statistics.ofReports ((b.runSequential t clock (xs ++ ys)).map (·.report)) =
      (Statistics.ofReports ((b.runSequential t clock xs).map (·.report))).append
        (Statistics.ofReports ((b.runSequential t clock ys).map (·.report))) := by
  refine ⟨fun files => ?_, fun file r h => ?_, fun file fixture hl hu r => ?_, fun xs ys => ?_⟩
  · induction files with
    | nil => exact .nil
    | cons file rest ih => exact .cons (b.reports_evaluate t _ file) ih
  · exact ⟨fun r' h' => h.untimed_eq h', h.skipped_iff, h.mismatch_iff⟩
  · exact reports_unchecked_iff hl hu
  · rw [runSequential, List.map_append, List.map_append, Statistics.ofReports_append]
    rfl

theorem runSequential_reports_checked :
    List.Forall₂ (checkingBench.Reports checkedTree)
      [checkedFile "show_version", checkedFile "show_clock", checkedFile "show_users",
        checkedFile "ip_route"]
      [⟨checkedFile "show_version", some ⟨"tests/cisco/show_version/v.raw"⟩, .success 1 0,
          some ⟨2, 1⟩⟩,
        ⟨checkedFile "show_clock", some ⟨"tests/cisco/show_clock/c.raw"⟩, .success 1 0, none⟩,
        ⟨checkedFile "show_users", none, .failure "Engine panicked: boom" (some "boom"), none⟩,
        ⟨checkedFile "ip_route", none, .skipped "No matching fixture file found", none⟩] ∧
    checkingBench.Differs checkedTree ⟨"tests/cisco/show_version/v.raw"⟩ 1 ⟨2, 1⟩ ∧
    Unusable checkedTree ⟨"tests/cisco/show_clock/c.raw"⟩ ∧
    { checkingBench with checkExpected := false }.Reports checkedTree (checkedFile "show_clock")
      ⟨checkedFile "show_clock", some ⟨"tests/cisco/show_clock/c.raw"⟩, .success 1 0, none⟩ := by
  obtain ⟨hreports, hrules, hunusable, -⟩ :=
    runSequential_reports checkingBench checkedTree (fun _ => 0)
  have hrun := hreports [checkedFile "show_version", checkedFile "show_clock",
    checkedFile "show_users", checkedFile "ip_route"]
  simp only [runSequential, List.map_cons, List.map_nil, evaluate_version, evaluate_clock,
    evaluate_users, evaluate_route] at hrun
  obtain ⟨hversion, hrest⟩ := List.forall₂_cons.mp hrun
  obtain ⟨hclock, -⟩ := List.forall₂_cons.mp hrest
  refine ⟨hrun, ?_, unusable_clock, ?_⟩
  · obtain ⟨count, elapsed, fixture, hcount, hlocated, hdiffers⟩ :=
      ((hrules _ _ hversion).2.2 ⟨2, 1⟩).mp rfl
    cases hcount
    cases hlocated.symm.trans supplied_version.located
    exact hdiffers
  · exact (hunusable _ _ supplied_clock.located unusable_clock _).mp hclock

end Bench

end TemplateBench
