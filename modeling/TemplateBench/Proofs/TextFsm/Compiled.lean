import TemplateBench.Proofs.Result
import TemplateBench.Proofs.Text.Blanks
import TemplateBench.Proofs.Text.Lines
import TemplateBench.TextFsm.Template

/-!
What holds of every template that compiles.

* `compile_readValues`: its values are those that `readValues` reads from its text.
* `compile_values_forall`: what holds of every declaration that can be read from a line holds of all
  its values.
* `readValues_nodup`: their names are distinct.
* `parse_eq_ok_iff`, `parse_allowed`: when a rule is read, and what its action may be.
* `ofParts_eq_ok_iff`: when a declaration can be made of its parts.
* `compile_options_nodup`: no value has an option twice.
-/
namespace TemplateBench.TextFsm
open Text

/-- Whether a text compiles to a template with some property can be computed. -/
theorem exists_compile {text : String} {p : Template → Prop} [DecidablePred p]
    (h : (Template.compile text).toOption.any (fun t => decide (p t)) = true) :
    ∃ t, Template.compile text = .ok t ∧ p t :=
  exists_ok h

/-! ## Reading a template -/

theorem check_values {t u : Template} (h : t.check = .ok u) : u.values = t.values := by
  unfold Template.check at h
  split at h
  · cases h
  · split at h
    · cases h
    · dsimp only at h
      split at h
      · cases h
      · cases h
        rfl

/-- The steps of compiling: values, states, and a check of both. -/
theorem compile_steps {text : String} {t : Template} (h : Template.compile text = .ok t) :
    ∃ values rest states, readValues [] (Template.numbered text) = .ok (values, rest) ∧
      readStates (templatesOf values) none [] rest = .ok states ∧
      (⟨values, states⟩ : Template).check = .ok t := by
  unfold Template.compile at h
  split at h
  · cases h
  · cases hv : readValues [] (Template.numbered text) with
    | error e => rw [hv] at h; cases h
    | ok read =>
      obtain ⟨values, rest⟩ := read
      rw [hv] at h
      simp only [bind, Except.bind] at h
      cases hs : readStates (templatesOf values) none [] rest with
      | error e => rw [hs] at h; cases h
      | ok states =>
        rw [hs] at h
        exact ⟨values, rest, states, rfl, hs, h⟩

theorem compile_readValues {text : String} {t : Template} (h : Template.compile text = .ok t) :
    ∃ rest, readValues [] (Template.numbered text) = .ok (t.values, rest) := by
  obtain ⟨values, rest, states, hv, _, hc⟩ := compile_steps h
  rw [check_values hc]
  exact ⟨rest, hv⟩

/-- Values are read one line at a time: what adding one of a new name keeps holds of all of them. -/
theorem readValues_induction {I : List Declaration → Prop} (lines : List NumberedLine)
    (hadd : ∀ values raw value, raw ∈ lines.map (·.2) → I values →
      Declaration.parse (String.ofList (trimEnd raw)) = .ok value →
      value.name ∉ values.map (·.name) → I (values ++ [value])) :
    ∀ (values : List Declaration) (read : List Declaration × List NumberedLine),
      I values → readValues values lines = .ok read → I read.1 := by
  induction lines with
  | nil =>
    intro values read hI h
    cases h
    exact hI
  | cons line rest ih =>
    obtain ⟨number, raw⟩ := line
    have ih := ih fun values raw' value hm => hadd values raw' value (List.mem_cons_of_mem raw hm)
    intro values read hI h
    simp only [readValues] at h
    split at h
    · cases h
      exact hI
    · split at h
      · exact ih values read hI h
      · split at h
        · cases hd : Declaration.parse (String.ofList (trimEnd raw)) with
          | error e => rw [hd] at h; cases h
          | ok value =>
            rw [hd] at h
            simp only at h
            split at h
            · cases h
            · rename_i hnew
              exact ih _ read
                (hadd values raw value List.mem_cons_self hI hd (by simpa using hnew)) h
        · split at h <;> cases h

/-- What holds of every declaration that can be read from some lines holds of all values read. -/
theorem readValues_forall {P : Declaration → Prop} {lines : List NumberedLine}
    (hP : ∀ raw d, raw ∈ lines.map (·.2) →
      Declaration.parse (String.ofList (trimEnd raw)) = .ok d → P d)
    {read : List Declaration × List NumberedLine} (h : readValues [] lines = .ok read) :
    ∀ d ∈ read.1, P d := by
  refine readValues_induction (I := fun values => ∀ d ∈ values, P d) lines ?_ [] read (by simp) h
  intro values raw value hraw hv hd _ d hm
  rcases List.mem_append.mp hm with hm | hm
  · exact hv d hm
  · rw [List.mem_singleton.mp hm]
    exact hP raw value hraw hd

/-- What follows the values is an end of the lines. -/
theorem readValues_suffix (lines : List NumberedLine) :
    ∀ (values : List Declaration) (read : List Declaration × List NumberedLine),
      readValues values lines = .ok read → read.2 <:+ lines := by
  induction lines with
  | nil =>
    intro values read h
    cases h
    exact List.suffix_refl _
  | cons line rest ih =>
    obtain ⟨number, raw⟩ := line
    have hrest : ∀ {values read}, readValues values rest = .ok read → read.2 <:+ (number, raw) :: rest :=
      fun h => (ih _ _ h).trans (List.suffix_cons _ _)
    intro values read h
    simp only [readValues] at h
    split at h
    · cases h
      exact List.suffix_cons _ _
    · split at h
      · exact hrest h
      · split at h
        · split at h
          · cases h
          · split at h
            · cases h
            · exact hrest h
        · split at h <;> cases h

theorem map_numbered (text : String) : (Template.numbered text).map (·.2) = lines text.toList := by
  rw [Template.numbered, List.map_map]
  exact List.zipIdx_map_fst 1 _

/-- What holds of every declaration that can be read from a line holds of all values. -/
theorem compile_values_forall {P : Declaration → Prop} {text : String} {t : Template}
    (h : Template.compile text = .ok t)
    (hP : ∀ (line : String) (d : Declaration), '\n' ∉ line.toList →
      Declaration.parse line = .ok d → P d) : ∀ d ∈ t.values, P d := by
  obtain ⟨rest, hread⟩ := compile_readValues h
  refine readValues_forall (fun raw d hraw hd => hP _ d (fun hm => ?_) hd) hread
  rw [map_numbered] at hraw
  rw [String.toList_ofList] at hm
  exact not_mem_of_mem_lines hraw ((trimEnd_isPrefix raw).subset hm)

/-- A list stays without duplicates when something new is added. -/
theorem nodup_map_concat {α β : Type} {f : α → β} {xs : List α} {x : α} (hn : (xs.map f).Nodup)
    (hx : f x ∉ xs.map f) : ((xs ++ [x]).map f).Nodup := by
  rw [List.map_append, List.nodup_append]
  refine ⟨hn, by simp, fun a ha b hb he => ?_⟩
  rw [List.map_singleton, List.mem_singleton] at hb
  exact hx (hb ▸ he ▸ ha)

theorem readValues_nodup {lines : List NumberedLine}
    {read : List Declaration × List NumberedLine} (h : readValues [] lines = .ok read) :
    (read.1.map (·.name)).Nodup :=
  readValues_induction (I := fun values => (values.map (·.name)).Nodup) lines
    (fun _ _ _ _ hn _ hnew => nodup_map_concat (f := Declaration.name) hn hnew) [] read
    List.nodup_nil h

/-! ## Rules -/

/-- The pattern of a rule: what stands before its last arrow. -/
def writtenPattern (rule : List Char) : List Char := ((splitAction rule).map (·.1)).getD rule

/-- The parts of a rule that can be read. -/
theorem parse_eq_ok_iff {templates : Templates} {line : String} {number : Nat} {rule : Rule} :
    Rule.parse templates line number = .ok rule ↔
      trim line.toList ≠ [] ∧
      compilePattern templates (writtenPattern (trim line.toList)) = .ok rule.regex ∧
      readAction (trim line.toList) (splitAction (trim line.toList)) = .ok rule.action ∧
      rule.pattern = String.ofList (writtenPattern (trim line.toList)) ∧
      rule.lineNumber = number := by
  obtain ⟨pattern, regex, action, lineNumber⟩ := rule
  unfold Rule.parse
  dsimp only
  rw [← writtenPattern]
  by_cases hempty : trim line.toList = []
  · rw [hempty]
    exact ⟨nofun, fun h => absurd rfl h.1⟩
  · rw [if_neg (by simpa using hempty)]
    cases compilePattern templates (writtenPattern (trim line.toList)) with
    | error e => exact ⟨nofun, nofun⟩
    | ok regex' =>
      cases readAction (trim line.toList) (splitAction (trim line.toList)) with
      | error e => exact ⟨nofun, nofun⟩
      | ok action' =>
        constructor
        · intro h
          cases h
          exact ⟨hempty, rfl, rfl, rfl, rfl⟩
        · rintro ⟨_, hregex, haction, rfl, rfl⟩
          cases hregex
          cases haction
          rfl

/-! ## Actions -/

/-- `Continue` goes to no state, and only a rejection has a target that is no name. -/
structure Action.Allowed (a : Action) : Prop where
  resume : a.lineOp = .resume → a.target = none
  name : ∀ target, a.target = some target → a.lineOp ≠ .reject →
    isStateName target.toList = true

theorem Action.allowed_of_target_eq_none {a : Action} (h : a.target = none) : a.Allowed :=
  ⟨fun _ => h, fun _ ht => by rw [h] at ht; cases ht⟩

theorem Action.check_eq_ok_iff {a : Action} : a.check = .ok () ↔ a.Allowed := by
  obtain ⟨lineOp, recordOp, target⟩ := a
  cases target with
  | none => exact ⟨fun _ => Action.allowed_of_target_eq_none rfl, fun _ => rfl⟩
  | some target =>
    constructor
    · intro h
      cases lineOp with
      | next =>
        refine ⟨nofun, fun target' ht _ => ?_⟩
        cases ht
        simpa [Action.check] using h
      | resume => cases h
      | reject => exact ⟨nofun, fun _ _ hne => absurd rfl hne⟩
    · rintro ⟨hresume, hname⟩
      cases lineOp with
      | next => simp [Action.check, hname target rfl nofun]
      | resume => exact absurd (hresume rfl) nofun
      | reject => rfl

theorem readAction_eq_ok_iff {rule pattern text : List Char} {a : Action} :
    readAction rule (some (pattern, text)) = .ok a ↔ Action.parse? text = some a ∧ a.Allowed := by
  rw [← Action.check_eq_ok_iff]
  simp only [readAction]
  cases Action.parse? text with
  | none => exact ⟨nofun, nofun⟩
  | some b =>
    dsimp only
    constructor
    · intro h
      cases hb : b.check with
      | error e => rw [hb] at h; cases h
      | ok u => rw [hb] at h; cases h; exact ⟨rfl, hb⟩
    · rintro ⟨he, hb⟩
      cases he
      rw [hb]
      rfl

theorem parse_allowed {templates : Templates} {line : String} {number : Nat} {rule : Rule}
    (h : Rule.parse templates line number = .ok rule) : rule.action.Allowed := by
  obtain ⟨_, _, haction, _⟩ := parse_eq_ok_iff.mp h
  cases hsplit : splitAction (trim line.toList) with
  | none =>
    rw [hsplit] at haction
    rw [← Except.ok.inj haction]
    exact Action.allowed_of_target_eq_none rfl
  | some parts =>
    rw [hsplit] at haction
    exact (readAction_eq_ok_iff.mp haction).2

/-! ## Options -/

theorem readOptions_nodup (tokens : List (List Char)) :
    ∀ seen options : List ValueOption,
      seen.Nodup → readOptions seen tokens = .ok options → options.Nodup := by
  induction tokens with
  | nil =>
    intro seen options hn h
    cases h
    exact hn
  | cons token rest ih =>
    intro seen options hn h
    simp only [readOptions] at h
    split at h
    · cases h
    · split at h
      · cases h
      · rename_i option _ hnew
        apply ih _ options _ h
        have hnot : option ∉ seen.map id := by simpa using hnew
        simpa using nodup_map_concat (f := id) (by simpa using hn) hnot

/-- The expression of a value tied to the start, which a value has if groups are declared in it. -/
def NestedOf (written : String) (compiled : Regex) : Option Regex → Prop
  | none => compiled.groups.length ≤ 1
  | some nested => 1 < compiled.groups.length ∧ compileAnchored written = .ok nested

/-- When a declaration can be made of its parts, and what it is. -/
theorem ofParts_eq_ok_iff {options : List ValueOption} {name : String} {regex : List Char}
    {d : Declaration} :
    Declaration.ofParts options name regex = .ok d ↔
      name ≠ "" ∧ name.utf8ByteSize ≤ maxNameLength ∧ isWrapped regex = true ∧
      ∃ compiled nested, Regex.compile (String.ofList regex) = .ok compiled ∧
        NestedOf (String.ofList regex) compiled nested ∧
        d = ⟨name, options, String.ofList regex, Declaration.nameGroup name regex, nested⟩ := by
  unfold Declaration.ofParts
  constructor
  · intro h
    split at h
    · cases h
    · rename_i hname
      split at h
      · cases h
      · rename_i hwrapped
        simp only [Bool.or_eq_true, String.isEmpty_iff, decide_eq_true_eq, not_or,
          Nat.not_lt] at hname
        refine ⟨hname.1, hname.2, by simpa using hwrapped, ?_⟩
        dsimp only at h
        split at h
        · cases h
        · rename_i compiled hcompiled
          split at h
          · rename_i hgroups
            split at h
            · cases h
            · rename_i nested hnested
              cases h
              exact ⟨compiled, some nested, hcompiled, ⟨hgroups, hnested⟩, rfl⟩
          · rename_i hgroups
            cases h
            exact ⟨compiled, none, hcompiled, Nat.not_lt.mp hgroups, rfl⟩
  · rintro ⟨hne, hshort, hwrapped, compiled, nested, hcompiled, hnested, rfl⟩
    have hname : ¬ (name.isEmpty || decide (name.utf8ByteSize > maxNameLength)) = true := by
      simpa [hne] using hshort
    rw [if_neg hname, if_neg (by simp [hwrapped])]
    simp only [hcompiled]
    cases nested with
    | none => rw [if_neg (Nat.not_lt.mpr hnested)]
    | some nested =>
      rw [if_pos hnested.1]
      simp only [hnested.2]

theorem ofParts_options {options : List ValueOption} {name : String} {regex : List Char}
    {d : Declaration} (h : Declaration.ofParts options name regex = .ok d) :
    d.options = options := by
  obtain ⟨_, _, _, _, _, _, _, rfl⟩ := ofParts_eq_ok_iff.mp h
  rfl

/-- Declarations that are made from other options differ in these only. -/
theorem ofParts_withOptions (options options' : List ValueOption) (name : String)
    (regex : List Char) :
    Declaration.ofParts options' name regex =
      (Declaration.ofParts options name regex).map fun d => { d with options := options' } := by
  unfold Declaration.ofParts
  split
  · rfl
  · split
    · rfl
    · dsimp only
      split
      · rfl
      · split
        · split <;> rfl
        · rfl

/-- A line that declares a value ends in the regex from which the value is made. -/
theorem parse_steps {line : String} {d : Declaration} (h : Declaration.parse line = .ok d) :
    ∃ options name front regex, Declaration.ofParts options name regex = .ok d ∧
      options.Nodup ∧ line.toList = front ++ regex := by
  have hjoin := join_splitOn ' ' line.toList
  unfold Declaration.parse at h
  split at h
  · rename_i first second third rest hs
    rw [hs, join_cons _ _ (by simp), join_cons _ _ (by simp)] at hjoin
    split at h
    · exact ⟨[], _, _, _, h, List.nodup_nil, by rw [← hjoin, ← List.append_assoc]⟩
    · cases ho : readOptions [] (splitOn ',' second) with
      | error e => rw [ho] at h; cases h
      | ok options =>
        rw [ho] at h
        have hnodup := readOptions_nodup _ [] options List.nodup_nil ho
        cases rest with
        | nil => exact ⟨options, _, line.toList, _, h, hnodup, by simp [join]⟩
        | cons piece pieces =>
          rw [join_cons _ _ (by simp)] at hjoin
          exact ⟨options, _, first ++ [' '] ++ second ++ [' '] ++ third ++ [' '], _, h, hnodup,
            by rw [← hjoin]; simp only [List.append_assoc]⟩
  · cases h

theorem parse_options_nodup (line : String) (d : Declaration)
    (h : Declaration.parse line = .ok d) : d.options.Nodup := by
  obtain ⟨options, name, front, regex, hd, hnodup, _⟩ := parse_steps h
  rw [ofParts_options hd]
  exact hnodup

theorem compile_options_nodup {text : String} {t : Template} (h : Template.compile text = .ok t) :
    ∀ d ∈ t.values, d.options.Nodup :=
  compile_values_forall h fun line d _ hd => parse_options_nodup line d hd

end TemplateBench.TextFsm
