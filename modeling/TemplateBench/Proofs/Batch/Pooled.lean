import TemplateBench.Batch.Run
import TemplateBench.Proofs.Batch.Pool
import TemplateBench.Proofs.Batch.Statistics

/-!
Running a batch in a pool against running it one template after the other.

* `evaluate_untimed`: a report does not depend on the time that the engine takes, that time aside.
* `reaches_pooled`: in every state of every run of the pool, no more templates are evaluated at a
  time than there are workers, and the run can go on unless it is over. Then every report has been
  shown and recorded once, and the statistics agree with those of the sequential run.
* `runPooled_perm`: the pool's own run makes the evaluations of the sequential one.
-/
namespace TemplateBench.Bench

/-- Evaluates a template whose engine call takes a time that nothing else depends on. -/
def job (b : Bench) (t : FileTree) : TemplateFile × Float → Evaluation
  | (file, elapsed) => b.evaluate t elapsed file

theorem evaluate_untimed (b : Bench) (t : FileTree) (file : TemplateFile) (elapsed other : Float) :
    (b.evaluate t elapsed file).report.untimed = (b.evaluate t other file).report.untimed := by
  unfold evaluate
  cases b.prepare t file with
  | settled fixture outcome => rfl
  | ready fixture source template =>
    simp only [conclude]
    cases b.engine.apply source template <;> rfl

/-- Evaluations of the same templates have the same reports, whenever and however fast made. -/
theorem untimed_perm (b : Bench) (t : FileTree) (clock : Clock)
    (jobs : List (TemplateFile × Float)) {evaluations : List Evaluation}
    (h : evaluations.Perm (jobs.map (b.job t))) :
    ((evaluations.map (·.report)).map Report.untimed).Perm
      (((b.runSequential t clock (jobs.map Prod.fst)).map (·.report)).map Report.untimed) := by
  have hperm := (h.map (·.report)).map Report.untimed
  have hsame : ((jobs.map (b.job t)).map (·.report)).map Report.untimed =
      ((b.runSequential t clock (jobs.map Prod.fst)).map (·.report)).map Report.untimed := by
    simp only [runSequential, List.map_map]
    apply List.map_congr_left
    rintro ⟨file, elapsed⟩ _
    exact b.evaluate_untimed t file elapsed (clock file)
  rwa [hsame] at hperm

/-- **A pool does what a sequential run does**, for every list of templates with the times that
they take, every number of workers and every order of moves. -/
theorem reaches_pooled (b : Bench) (t : FileTree) (clock : Clock) (workers : Nat)
    (jobs : List (TemplateFile × Float)) {p : Pool (TemplateFile × Float) Evaluation}
    (h : Pool.Reaches (b.job t) (Pool.start workers jobs) p) :
    p.active ≤ max workers 1 ∧
    (p.done = false → ∃ m q, p.step? (b.job t) m = some q) ∧
    (p.done = true →
      p.shown = p.recorded ∧ p.recorded.Perm (jobs.map (b.job t)) ∧
      (Statistics.ofReports (p.recorded.map (·.report))).Agrees
        (Statistics.ofReports
          ((b.runSequential t clock (jobs.map Prod.fst)).map (·.report)))) := by
  have hsound := Pool.Sound.of_reaches h
  refine ⟨hsound.active_le, fun hd => ?_, fun hd => ?_⟩
  · obtain ⟨m, _, q, hs⟩ := hsound.progress hd
    exact ⟨m, q, hs⟩
  · obtain ⟨hshown, hperm⟩ := hsound.of_done hd
    exact ⟨hshown, hperm, Statistics.ofReports_agrees (b.untimed_perm t clock jobs hperm)⟩

def sampleBench : Bench :=
  ⟨EngineKind.textFsm.engine, ⟨⟨"fixtures"⟩, "txt"⟩, "cisco", false⟩

def showVersion : TemplateFile × Float :=
  (⟨"cisco_show_version.textfsm", "show version", ⟨"templates/cisco_show_version.textfsm"⟩⟩, 2)

def showVlan : TemplateFile × Float :=
  (⟨"cisco_show_vlan.textfsm", "show vlan", ⟨"templates/cisco_show_vlan.textfsm"⟩⟩, 3)

/-- The second of two templates, for which there are two workers, overtakes the first. -/
theorem reaches_pooled_overtaking :
    ∃ p : Pool (TemplateFile × Float) Evaluation,
      Pool.Reaches (sampleBench.job {}) (Pool.start 2 [showVersion, showVlan]) p ∧
      p.done = true ∧
      p.recorded = [sampleBench.job {} showVlan, sampleBench.job {} showVersion] ∧
      p.shown = p.recorded ∧
      (Statistics.ofReports (p.recorded.map (·.report))).Agrees
        (Statistics.ofReports ((sampleBench.runSequential {} (fun _ => 1)
          [showVersion.1, showVlan.1]).map (·.report))) := by
  have hmoves : ∃ p, [Move.acquire, .start, .acquire, .start, .hangUp, .finish 1, .release 0,
      .send 0, .receive, .tell, .finish 0, .release 0, .record, .send 0, .leave, .receive, .tell,
      .leave, .record, .close].foldlM (Pool.step? (sampleBench.job {}))
        (Pool.start 2 [showVersion, showVlan]) = some p ∧ p.done = true ∧
      p.recorded = [sampleBench.job {} showVlan, sampleBench.job {} showVersion] :=
    ⟨_, rfl, rfl, rfl⟩
  obtain ⟨p, hm, hd, hr⟩ := hmoves
  have hreaches := Pool.reaches_foldlM _ .refl hm
  obtain ⟨hshown, _, hagrees⟩ := (sampleBench.reaches_pooled {} (fun _ => 1) 2 _ hreaches).2.2 hd
  exact ⟨p, hreaches, hd, hr, hshown, hagrees⟩

/-- The pool's own run makes the evaluations of the sequential one. -/
theorem runPooled_perm (b : Bench) (t : FileTree) (clock : Clock) (workers : Nat)
    (files : List TemplateFile) :
    (b.runPooled t clock workers files).Perm (b.runSequential t clock files) :=
  Pool.run_perm _ workers files

end TemplateBench.Bench
