import TemplateBench.Proofs.TextFsm.Trace

/-!
The states that a run passes through.

* `Reachable`: from the start, one capture, record operator or move of a rule at a time, where the
  rule belongs to the state of the run and matches the line.
* `readLines_reachable`: reading lines passes through reachable states only.
* `readLines_append`: a run goes on where it was, unless it has stopped.
* `Reachable.invariant`: what holds at the start and is kept by every event and every change of
  state holds of all of them.
-/
namespace TemplateBench.TextFsm
open Text

/-- A rule of a state matches a line. -/
def Fires (t : Template) (state : String) (rule : Rule) (line : List Char) (m : Regex.Match) :
    Prop :=
  (∃ rules, t.states.lookup state = some rules ∧ rule ∈ rules) ∧ rule.regex.find? line = some m

namespace Run

inductive Reachable (t : Template) : Run → Prop
  | start : Reachable t (start t)
  | assign {run : Run} {rule : Rule} {line : List Char} {m : Regex.Match}
      {group : String × Option String} : Reachable t run → Fires t run.state rule line m →
      group ∈ rule.regex.namedGroups line m → Reachable t (run.assignNamed t group)
  | operate {run : Run} {rule : Rule} {line : List Char} {m : Regex.Match} : Reachable t run →
      Fires t run.state rule line m → Reachable t (run.applyRecordOp t rule.action.recordOp)
  | move {run : Run} {rule : Rule} {line : List Char} {m : Regex.Match} : Reachable t run →
      Fires t run.state rule line m → rule.action.lineOp = .next →
      Reachable t (run.moveTo t rule.action.target)
  | finish {run : Run} : Reachable t run → Reachable t (run.finish t)

/-! ## Runs stay reachable -/

theorem assignNamed_state (t : Template) (run : Run) (group : String × Option String) :
    (run.assignNamed t group).state = run.state := by
  have h := foldl_assignNamed t [group] run
  rw [List.foldl_cons, List.foldl_nil] at h
  rw [h, play_state]

theorem Reachable.foldl_assignNamed {t : Template} {run : Run} {rule : Rule} {line : List Char}
    {m : Regex.Match} (groups : List (String × Option String)) (h : Reachable t run)
    (hf : Fires t run.state rule line m)
    (hg : ∀ group ∈ groups, group ∈ rule.regex.namedGroups line m) :
    Reachable t (groups.foldl (assignNamed t) run) ∧
      (groups.foldl (assignNamed t) run).state = run.state := by
  induction groups generalizing run with
  | nil => exact ⟨h, rfl⟩
  | cons group rest ih =>
    have hs := assignNamed_state t run group
    have hr := ih (h.assign hf (hg group (by simp))) (by rw [hs]; exact hf)
      (fun g hm => hg g (by simp [hm]))
    exact ⟨hr.1, hr.2.trans hs⟩

theorem Reachable.applyRule {t : Template} {run : Run} {rule : Rule} {line : List Char}
    {m : Regex.Match} (h : Reachable t run) (hf : Fires t run.state rule line m) :
    Reachable t (run.applyRule t rule line m) ∧
      (run.applyRule t rule line m).state = run.state := by
  obtain ⟨hr, hs⟩ := h.foldl_assignNamed (rule.regex.namedGroups line m) hf (fun _ hg => hg)
  refine ⟨hr.operate (by rw [hs]; exact hf), ?_⟩
  rw [applyRule_eq, play_state]

theorem Reachable.tryRules {t : Template} {run after : Run} {line : List Char} {all : List Rule}
    (rules : List Rule) (h : Reachable t run) (hl : t.states.lookup run.state = some all)
    (hsub : ∀ rule ∈ rules, rule ∈ all) (ht : tryRules t line rules run = .ok after) :
    Reachable t after := by
  induction rules generalizing run with
  | nil =>
    cases ht
    exact h
  | cons rule rest ih =>
    have hrest : ∀ r ∈ rest, r ∈ all := fun r hr => hsub r (by simp [hr])
    simp only [Run.tryRules] at ht
    cases hm : rule.regex.find? line with
    | none =>
      rw [hm] at ht
      exact ih h hl hrest ht
    | some m =>
      have hf : Fires t run.state rule line m := ⟨⟨all, hl, hsub rule (by simp)⟩, hm⟩
      obtain ⟨hr, hs⟩ := h.applyRule hf
      rw [← hs] at hl hf
      rw [hm] at ht
      cases ho : rule.action.lineOp with
      | reject => simp [ho] at ht
      | resume =>
        simp only [ho] at ht
        exact ih hr hl hrest ht
      | next =>
        simp only [ho] at ht
        cases ht
        exact hr.move hf ho

theorem Reachable.checkLine {t : Template} {run after : Run} {line : List Char}
    (h : Reachable t run) (hc : checkLine t line run = .ok after) : Reachable t after := by
  unfold Run.checkLine at hc
  cases hl : t.states.lookup run.state with
  | none =>
    rw [hl] at hc
    cases hc
    exact h
  | some rules =>
    rw [hl] at hc
    exact h.tryRules rules hl (fun _ hr => hr) hc

/-- Reading lines passes through reachable states only. -/
theorem readLines_reachable {t : Template} (lines : List (List Char)) {run after : Run}
    (h : Reachable t run) (hr : readLines t lines run = .ok after) : Reachable t after := by
  induction lines generalizing run with
  | nil =>
    cases hr
    exact h
  | cons line rest ih =>
    simp only [readLines] at hr
    cases hc : Run.checkLine t line run with
    | error rejection => rw [hc] at hr; cases hr
    | ok next =>
      rw [hc] at hr
      simp only [bind, Except.bind] at hr
      split at hr
      · cases hr
        exact h.checkLine hc
      · exact ih (h.checkLine hc) hr

/-- A run goes on where it was, unless it has stopped. -/
theorem readLines_append (t : Template) (lines more : List (List Char)) (run : Run)
    (hrun : isStop run.state = false) :
    readLines t (lines ++ more) run =
      (readLines t lines run).bind fun after =>
        if isStop after.state then .ok after else readLines t more after := by
  induction lines generalizing run with
  | nil => simp [readLines, Except.bind, hrun]
  | cons line rest ih =>
    simp only [List.cons_append, readLines]
    cases checkLine t line run with
    | error rejection => rfl
    | ok next =>
      simp only [bind, Except.bind]
      cases hs : isStop next.state with
      | true => simp [pure, Except.pure, hs]
      | false => simpa [Except.bind] using ih next hs

theorem parse_reachable {t : Template} {source : String} {table : Table}
    (h : t.parse source = .ok table) :
    ∃ run, Reachable t run ∧ table = ⟨t.header, run.rows⟩ := by
  unfold Template.parse at h
  cases hr : readLines t (lines source.toList) (Run.start t) with
  | error rejection => rw [hr] at h; cases h
  | ok run =>
    rw [hr] at h
    cases h
    exact ⟨run.finish t, (readLines_reachable _ .start hr).finish, rfl⟩

/-! ## Invariants -/

/-- What holds at the start and is kept by every event and every change of state holds of every
reachable run. -/
theorem Reachable.invariant {t : Template} {P : Run → Prop} (hstart : P (Run.start t))
    (happly : ∀ run e, P run → P (run.apply t e))
    (hstate : ∀ (run : Run) (state : String), P run → P { run with state }) {run : Run}
    (h : Reachable t run) : P run := by
  have hplay : ∀ (events : List Event) (run : Run), P run → P (run.play t events) := by
    intro events
    induction events with
    | nil => exact fun _ h => h
    | cons e rest ih => exact fun run h => ih _ (happly run e h)
  induction h with
  | start => exact hstart
  | @assign run rule line m group _ _ _ ih =>
    have hg := Run.foldl_assignNamed t [group] run
    rw [List.foldl_cons, List.foldl_nil] at hg
    rw [hg]
    exact hplay _ _ ih
  | @operate run rule line m _ _ ih =>
    cases rule.action.recordOp with
    | noRecord => exact ih
    | record => exact happly run .record ih
    | clear => exact happly run .clear ih
    | clearAll => exact happly run .clearAll ih
  | move _ _ _ ih =>
    rw [moveTo_eq]
    exact hstate _ _ ih
  | finish _ ih =>
    rw [finish_eq_play]
    exact hplay _ _ ih

end Run

end TemplateBench.TextFsm
