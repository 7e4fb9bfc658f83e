import TemplateBench.Proofs.Json.Members
import TemplateBench.Proofs.TextFsm.Compiled
import TemplateBench.Proofs.TextFsm.Reachable

/-!
A template that compiles is a closed machine.

* `readStates_induction`: what opening a state and adding a rule keep holds of all states read.
* `check_ok`: what a template fulfils that passes its check.
* `compile_closed`: names are distinct, `Start` is there, `End` is not, and every target leads to a
  state, to `End` or to `EOF` (`Template.Closed`).
* `Closed.state_of_reachable`: so a run never leaves these states.
* `compile_reachable_closed`: so it goes where its rules say, and reads no line without rules.
-/
namespace TemplateBench.TextFsm
open Text

/-- Names are distinct, and every rule leads to a state that is there or stops. -/
structure Template.Closed (t : Template) : Prop where
  valueNames : t.header.Nodup
  stateNames : t.stateNames.Nodup
  start : "Start" ∈ t.stateNames
  noEnd : "End" ∉ t.stateNames
  eof : ∀ rules, ("EOF", rules) ∈ t.states → rules = []
  resume : ∀ state rules rule, (state, rules) ∈ t.states → rule ∈ rules →
    rule.action.lineOp = .resume → rule.action.target = none
  target : ∀ state rules rule target, (state, rules) ∈ t.states → rule ∈ rules →
    rule.action.lineOp ≠ .reject → rule.action.target = some target →
    target ∈ t.stateNames ∨ target = "End" ∨ target = "EOF"

/-! ## Reading states -/

/-- States are read one line at a time: a name opens a state, and a rule is added to it. -/
theorem readStates_induction {templates : Templates} {I : List (String × List Rule) → Prop}
    (lines : List NumberedLine)
    (hopen : ∀ states name, I states → name ∉ states.map (·.1) → I (states ++ [(name, [])]))
    (hrule : ∀ states name rules raw number rule, raw ∈ lines.map (·.2) →
      I (states ++ [(name, rules)]) →
      Rule.parse templates (String.ofList (trimEnd raw)) number = .ok rule →
      I (states ++ [(name, rules ++ [rule])])) :
    ∀ (current : Option (String × List Rule)) (states read : List (String × List Rule)),
      I (states ++ current.toList) → readStates templates current states lines = .ok read →
      I read := by
  induction lines with
  | nil =>
    intro current states read hI h
    cases h
    exact hI
  | cons line rest ih =>
    obtain ⟨number, raw⟩ := line
    have ih := ih fun states name rules raw' number rule hm =>
      hrule states name rules raw' number rule (List.mem_cons_of_mem raw hm)
    intro current states read hI h
    cases current with
    | none =>
      simp only [readStates] at h
      split at h
      · exact ih none states read hI h
      · split at h
        · cases h
        · split at h
          · cases h
          · rename_i hnew
            refine ih (some (_, [])) states read (hopen states _ (by simpa using hI) ?_) h
            simpa using hnew
    | some open_ =>
      obtain ⟨name, rules⟩ := open_
      simp only [readStates] at h
      split at h
      · exact ih none (states ++ [(name, rules)]) read (by simpa using hI) h
      · split at h
        · exact ih (some (name, rules)) states read hI h
        · split at h
          · cases h
          · cases hr : Rule.parse templates (String.ofList (trimEnd raw)) number with
            | error e => rw [hr] at h; cases h
            | ok rule =>
              rw [hr] at h
              exact ih (some (name, rules ++ [rule])) states read
                (hrule states name rules raw number rule List.mem_cons_self hI hr) h

theorem readStates_nodup {templates : Templates} {lines : List NumberedLine}
    {states : List (String × List Rule)} (h : readStates templates none [] lines = .ok states) :
    (states.map (·.1)).Nodup := by
  refine readStates_induction (I := fun states => (states.map (·.1)).Nodup) lines ?_ ?_ none []
    states List.nodup_nil h
  · intro states name hn hnew
    exact nodup_map_concat (f := Prod.fst) hn hnew
  · intro states name rules raw number rule _ hI _
    simpa using hI

/-- What holds of every rule that can be read from some lines holds of all rules of the states
read. -/
theorem readStates_forall {templates : Templates} {P : Rule → Prop} {lines : List NumberedLine}
    (hP : ∀ raw number rule, raw ∈ lines.map (·.2) →
      Rule.parse templates (String.ofList (trimEnd raw)) number = .ok rule → P rule)
    {states : List (String × List Rule)} (h : readStates templates none [] lines = .ok states) :
    ∀ state rules rule, (state, rules) ∈ states → rule ∈ rules → P rule := by
  refine readStates_induction
    (I := fun states => ∀ state rules rule, (state, rules) ∈ states → rule ∈ rules → P rule)
    lines ?_ ?_ none [] states (by simp) h
  · intro states name hI _ state rules rule hs hr
    rcases List.mem_append.mp hs with hs | hs
    · exact hI state rules rule hs hr
    · cases List.mem_singleton.mp hs
      cases hr
  · intro states name rules raw number new hraw hI hnew state rules' rule hs hr
    rcases List.mem_append.mp hs with hs | hs
    · exact hI state rules' rule (List.mem_append_left _ hs) hr
    · cases List.mem_singleton.mp hs
      rcases List.mem_append.mp hr with hr | hr
      · exact hI name rules rule (by simp) hr
      · rw [List.mem_singleton.mp hr]
        exact hP raw number new hraw hnew

/-! ## The check of a template -/

theorem any_fst_beq {states : List (String × List Rule)} {name : String} :
    states.any (·.1 == name) = true ↔ name ∈ states.map (·.1) := by
  simp only [List.any_eq_true, beq_iff_eq, List.mem_map]

/-- What a template fulfils that passes its check. Only `End` is dropped. -/
theorem check_ok {t u : Template} (h : t.check = .ok u) :
    u = { t with states := t.states.filter (·.1 != "End") } ∧ "Start" ∈ t.stateNames ∧
      (∀ rules, t.states.lookup "EOF" = some rules → rules = []) ∧
      ∀ state rules, (state, rules) ∈ u.states → unknownTarget? u.states rules = none := by
  unfold Template.check at h
  split at h
  · cases h
  · rename_i hstart
    split at h
    · cases h
    · rename_i hreserved
      dsimp only at h
      split at h
      · cases h
      · rename_i htargets
        cases h
        refine ⟨rfl, by simpa [Template.stateNames] using hstart, fun rules hl => ?_, ?_⟩
        · have hempty := List.find?_eq_none.mp hreserved "EOF" (by simp)
          simpa [hl] using hempty
        · intro state rules hs
          simpa using List.findSome?_eq_none_iff.mp htargets (state, rules) hs

theorem exists_of_unknownTarget? {states : List (String × List Rule)} {rules : List Rule}
    {target : String} (h : unknownTarget? states rules = some target) :
    ∃ rule ∈ rules, rule.action.lineOp ≠ .reject ∧ rule.action.target = some target ∧
      isStop target = false ∧ target ∉ states.map (·.1) := by
  obtain ⟨rule, hr, hrule⟩ := List.exists_of_findSome?_eq_some h
  split at hrule
  · rename_i found hfound
    split at hrule
    · cases hrule
    · rename_i hunknown
      cases hrule
      simp only [Bool.or_eq_true, decide_eq_true_eq, not_or, Bool.not_eq_true] at hunknown
      exact ⟨rule, hr, hunknown.1.1, hfound, hunknown.1.2,
        fun hm => Bool.false_ne_true (hunknown.2.symm.trans (any_fst_beq.mpr hm))⟩
  · cases hrule

/-- What suffices for a template to pass its check. -/
theorem check_eq_ok {t : Template} (hstart : "Start" ∈ t.stateNames)
    (hstops : ∀ state rules, (state, rules) ∈ t.states → isStop state = true → rules = [])
    (htargets : ∀ state rules rule target, (state, rules) ∈ t.states → rule ∈ rules →
      rule.action.lineOp ≠ .reject → rule.action.target = some target →
      target ∈ t.stateNames ∨ isStop target = true) :
    t.check = .ok { t with states := t.states.filter (·.1 != "End") } := by
  unfold Template.check
  split
  · rename_i hnone
    rw [any_fst_beq.mpr hstart] at hnone
    cases hnone
  · split
    · rename_i name hfound
      have hsome := List.find?_some hfound
      obtain ⟨rules, hl, hne⟩ := (Option.any_eq_true _ _).mp hsome
      have hname : isStop name = true := by simpa [isStop] using List.mem_of_find?_eq_some hfound
      have hempty := hstops name rules (mem_of_lookup hl) hname
      simp [hempty] at hne
    · dsimp only
      split
      · rename_i target state hfound
        obtain ⟨⟨state, rules⟩, hs, hsome⟩ := List.exists_of_findSome?_eq_some hfound
        obtain ⟨_, htarget, he⟩ := Option.map_eq_some_iff.mp hsome
        cases he
        obtain ⟨rule, hr, ho, ht, hstop, hnot⟩ := exists_of_unknownTarget? htarget
        -- A target that is a state is dropped only if it is `End`.
        rcases htargets state rules rule target (List.mem_filter.mp hs).1 hr ho ht with hm | hm
        · obtain ⟨⟨name, own⟩, hown, rfl⟩ := List.mem_map.mp hm
          refine absurd (List.mem_map.mpr ⟨(name, own), List.mem_filter.mpr ⟨hown, ?_⟩, rfl⟩) hnot
          simp only [isStop, Bool.or_eq_false_iff] at hstop
          simp only [bne, hstop.1, Bool.not_false]
        · rw [hstop] at hm
          cases hm
      · rfl

theorem target_of_unknownTarget? {states : List (String × List Rule)} {rules : List Rule}
    (h : unknownTarget? states rules = none) {rule : Rule} (hr : rule ∈ rules)
    (ho : rule.action.lineOp ≠ .reject) {target : String} (ht : rule.action.target = some target) :
    target ∈ states.map (·.1) ∨ target = "End" ∨ target = "EOF" := by
  have hrule := List.findSome?_eq_none_iff.mp h rule hr
  simp only [ht, ho, decide_false, Bool.false_or, ite_eq_left_iff, reduceCtorEq, imp_false,
    Classical.not_not, Bool.or_eq_true] at hrule
  rcases hrule with hstop | hstate
  · exact Or.inr (by simpa [isStop] using hstop)
  · exact Or.inl (by simpa using hstate)

/-- What holds of every rule that can be read from a line of the text, with the templates of the
values, holds of all rules of a template. -/
theorem compile_forall_rules {P : Rule → Prop} {text : String} {t : Template}
    (h : Template.compile text = .ok t)
    (hP : ∀ raw number rule, raw ∈ lines text.toList →
      Rule.parse (templatesOf t.values) (String.ofList (trimEnd raw)) number = .ok rule → P rule) :
    ∀ state rules rule, (state, rules) ∈ t.states → rule ∈ rules → P rule := by
  obtain ⟨values, rest, states, hv, hs, hc⟩ := compile_steps h
  obtain ⟨rfl, _⟩ := check_ok hc
  have hrest : ∀ raw ∈ rest.map (·.2), raw ∈ lines text.toList := by
    rw [← map_numbered]
    exact ((readValues_suffix _ _ _ hv).map _).subset
  exact fun state rules rule hm =>
    readStates_forall (fun raw number rule hraw => hP raw number rule (hrest raw hraw)) hs state
      rules rule (List.mem_of_mem_filter hm)

/-- Every template that compiles is closed. -/
theorem compile_closed {text : String} {t : Template} (h : Template.compile text = .ok t) :
    t.Closed := by
  obtain ⟨values, rest, states, hv, hs, hc⟩ := compile_steps h
  obtain ⟨rfl, hstart, heof, htargets⟩ := check_ok hc
  have hnodup := readStates_nodup hs
  have hmem : ∀ state rules, (state, rules) ∈ states.filter (·.1 != "End") →
      (state, rules) ∈ states ∧ state ≠ "End" := by
    intro state rules hm
    simpa using hm
  refine ⟨readValues_nodup hv, ?_, ?_, ?_, ?_, ?_, ?_⟩
  · exact hnodup.sublist (List.filter_sublist.map _)
  · obtain ⟨⟨name, rules⟩, hm, hname⟩ := List.mem_map.mp hstart
    obtain rfl : name = "Start" := hname
    exact List.mem_map.mpr ⟨("Start", rules), by simpa using hm, rfl⟩
  · intro hend
    obtain ⟨⟨name, rules⟩, hm, hname⟩ := List.mem_map.mp hend
    exact (hmem name rules hm).2 hname
  · intro rules hm
    exact heof rules (lookup_of_mem hnodup (hmem "EOF" rules hm).1)
  · intro state rules rule hm hr ho
    have hallowed := compile_forall_rules (P := fun rule => rule.action.Allowed) h
      (fun _ _ _ _ => parse_allowed) state rules rule hm hr
    exact hallowed.resume ho
  · intro state rules rule target hm hr ho ht
    exact target_of_unknownTarget? (htargets state rules hm) hr ho ht

/-! ## Runs -/

namespace Run

theorem applyRecordOp_state (t : Template) (op : RecordOp) (run : Run) :
    (run.applyRecordOp t op).state = run.state := by
  have hplay : run.applyRecordOp t op = run.play t op.events := by
    cases op <;> rfl
  rw [hplay, play_state]

theorem finish_state (t : Template) (run : Run) : (run.finish t).state = run.state := by
  rw [finish_eq_play, play_state]

end Run

namespace Template.Closed

variable {t : Template}

theorem target_of_fires (ht : t.Closed) {state target : String} {rule : Rule} {line : List Char}
    {m : Regex.Match} (hf : Fires t state rule line m) (ho : rule.action.lineOp = .next)
    (htarget : rule.action.target = some target) :
    target ∈ t.stateNames ∨ target = "End" ∨ target = "EOF" := by
  obtain ⟨⟨rules, hl, hr⟩, _⟩ := hf
  exact ht.target state rules rule target (mem_of_lookup hl) hr (by simp [ho]) htarget

/-- A move goes where its rule says, and falls back on `End` only for `End` itself. -/
theorem stateAfter_eq (ht : t.Closed) {state target : String} {rule : Rule} {line : List Char}
    {m : Regex.Match} (hf : Fires t state rule line m) (ho : rule.action.lineOp = .next)
    (htarget : rule.action.target = some target) :
    stateAfter t state (some target) = target ∧
      (target ∉ t.stateNames → target ≠ "EOF" → target = "End") := by
  rcases ht.target_of_fires hf ho htarget with hs | rfl | rfl
  · have hany : t.states.any (·.1 == target) = true := by
      simpa [Template.stateNames] using hs
    exact ⟨by simp [stateAfter, hany], fun hnot => absurd hs hnot⟩
  · exact ⟨by simp [stateAfter], fun _ _ => rfl⟩
  · exact ⟨by simp [stateAfter], fun _ hne => absurd rfl hne⟩

/-- A run never leaves the states of its template. -/
theorem state_of_reachable (ht : t.Closed) {run : Run} (h : Run.Reachable t run) :
    run.state ∈ t.stateNames ∨ run.state = "End" ∨ run.state = "EOF" := by
  induction h with
  | start => exact Or.inl ht.start
  | assign _ _ _ ih =>
    rw [Run.assignNamed_state]
    exact ih
  | operate _ _ ih =>
    rw [Run.applyRecordOp_state]
    exact ih
  | @move run rule line m _ hf ho ih =>
    rw [Run.moveTo_eq]
    cases htarget : rule.action.target with
    | none => exact ih
    | some target =>
      rw [(ht.stateAfter_eq hf ho htarget).1]
      exact ht.target_of_fires hf ho htarget
  | finish _ ih =>
    rw [Run.finish_state]
    exact ih

/-- A run that has not stopped is in a state with rules of its own. -/
theorem exists_rules (ht : t.Closed) {run : Run} (h : Run.Reachable t run)
    (hs : isStop run.state = false) : ∃ rules, t.states.lookup run.state = some rules := by
  rcases ht.state_of_reachable h with hm | he | he
  · obtain ⟨⟨state, rules⟩, hm, he⟩ := List.mem_map.mp hm
    exact ⟨rules, he ▸ lookup_of_mem ht.stateNames hm⟩
  · simp [isStop, he] at hs
  · simp [isStop, he] at hs

end Template.Closed

/-- **Templates are closed machines.** A template that compiles has distinct names and no target
that leads nowhere, so every run stays in its states, every move goes to the state that its rule
names, and every line that is read meets the rules of a state. -/
theorem compile_reachable_closed {text : String} {t : Template}
    (h : Template.compile text = .ok t) :
    t.Closed ∧
    (∀ run, Run.Reachable t run →
      (run.state ∈ t.stateNames ∨ run.state = "End" ∨ run.state = "EOF") ∧
      ∀ rule line m target, Fires t run.state rule line m → rule.action.lineOp = .next →
        rule.action.target = some target →
        (run.moveTo t (some target)).state = target ∧
        (target ∉ t.stateNames → target ≠ "EOF" → target = "End")) ∧
    ∀ (source : String) before line after run, lines source.toList = before ++ line :: after →
      Run.readLines t before (Run.start t) = .ok run → isStop run.state = false →
      ∃ rules, t.states.lookup run.state = some rules ∧
        Run.readLines t (lines source.toList) (Run.start t) =
          (Run.tryRules t line rules run).bind fun next =>
            if isStop next.state then .ok next else Run.readLines t after next := by
  have ht := compile_closed h
  refine ⟨ht, fun run hr => ⟨ht.state_of_reachable hr, ?_⟩, ?_⟩
  · intro rule line m target hf ho htarget
    rw [Run.moveTo_eq]
    exact ht.stateAfter_eq hf ho htarget
  · intro source before line after run hlines hread hs
    obtain ⟨rules, hl⟩ := ht.exists_rules (Run.readLines_reachable before .start hread) hs
    refine ⟨rules, hl, ?_⟩
    rw [hlines, Run.readLines_append t before (line :: after) (Run.start t) rfl, hread]
    simp only [Except.bind, hs, Bool.false_eq_true, ↓reduceIte, Run.readLines, Run.checkLine, hl]
    rfl

def neighborTable : String :=
  "Value Neighbor (\\S+)\n\nStart\n  ^Neighbors -> Table\n\nTable\n" ++
    "  ^${Neighbor}\\s+up -> Record\n  ^--- -> End\n  ^! -> EOF\n  ^. -> Error\n\nEnd\n\nEOF\n"

/-- The state `End` is dropped, and the first line moves on to the rules of the table. -/
theorem compile_reachable_closed_neighborTable :
    ∃ t run rules, Template.compile neighborTable = .ok t ∧ t.Closed ∧
      t.stateNames = ["Start", "Table", "EOF"] ∧ run.state = "Table" ∧
      t.states.lookup run.state = some rules ∧
      Run.readLines t (lines "Neighbors\nr1 up\n---\nr2 up\n".toList) (Run.start t) =
        (Run.tryRules t "r1 up".toList rules run).bind fun next =>
          if isStop next.state then .ok next
          else Run.readLines t ["---".toList, "r2 up".toList] next := by
  have hc : ∃ t, Template.compile neighborTable = .ok t ∧
      t.stateNames = ["Start", "Table", "EOF"] ∧
      (Run.readLines t ["Neighbors".toList] (Run.start t)).toOption.any (·.state == "Table") = true :=
    exists_compile (by decide +kernel)
  obtain ⟨t, h, hnames, htable⟩ := hc
  cases hread : Run.readLines t ["Neighbors".toList] (Run.start t) with
  | error rejection => rw [hread] at htable; cases htable
  | ok run =>
    rw [hread] at htable
    have hstate : run.state = "Table" := eq_of_beq htable
    obtain ⟨ht, _, hlines⟩ := compile_reachable_closed h
    obtain ⟨rules, hl, hrest⟩ := hlines "Neighbors\nr1 up\n---\nr2 up\n" ["Neighbors".toList]
      "r1 up".toList ["---".toList, "r2 up".toList] run (by decide) hread
      (by rw [hstate]; decide)
    exact ⟨t, run, rules, h, ht, hnames, hstate, hl, hrest⟩

end TemplateBench.TextFsm
