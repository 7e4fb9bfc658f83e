import TemplateBench.Proofs.TextFsm.Closed
import TemplateBench.Proofs.TextFsm.Trailing

/-!
The layout of a template does not matter.

* `Written` is what a template says: lines of values, and states with their lines of rules.
* `Spaced` allows comments, more blank lines and white space at the ends of lines.
* `compile_spaced`: whatever its layout, a template compiles to what it says, with the numbers of
  its own lines.
-/
namespace TemplateBench.TextFsm
open Text

/-! ## What a template says -/

/-- The line of a value. -/
structure ValueLine where
  line : List Char
  value : Declaration
  begins : startsWith line "Value ".toList = true
  parses : Declaration.parse (String.ofList line) = .ok value
  single : '\n' ∉ line

/-- The line of a rule. Its number is no part of what it says. -/
structure RuleLine (templates : Templates) where
  line : List Char
  rule : Rule
  indented : isRuleLine line = true
  parses : Rule.parse templates (String.ofList line) rule.lineNumber = .ok rule
  single : '\n' ∉ line

/-- A name with the rules below it. -/
structure StateBlock (templates : Templates) where
  name : String
  rules : List (RuleLine templates)
  usable : isUsableStateName name.toList = true

def StateBlock.lines {templates : Templates} (block : StateBlock templates) : List (List Char) :=
  block.name.toList :: block.rules.map (·.line) ++ [[]]

def StateBlock.state {templates : Templates} (block : StateBlock templates) :
    String × List Rule :=
  (block.name, block.rules.map (·.rule))

/-- What a template says. -/
structure Written where
  values : List ValueLine
  states : List (StateBlock (templatesOf (values.map (·.value))))
  valueNames : (values.map (·.value.name)).Nodup
  stateNames : (states.map (·.name)).Nodup
  start : "Start" ∈ states.map (·.name)
  stops : ∀ block ∈ states, isStop block.name = true → block.rules = []
  targets : ∀ block ∈ states, ∀ line ∈ block.rules, ∀ target,
    line.rule.action.lineOp ≠ .reject → line.rule.action.target = some target →
    target ∈ states.map (·.name) ∨ isStop target = true

namespace Written

/-- The lines of a template with no comment and no line to spare. -/
def lines (w : Written) : List (List Char) :=
  w.values.map (·.line) ++ [] :: w.states.flatMap (·.lines)

/-- The template itself. -/
def template (w : Written) : Template where
  values := w.values.map (·.value)
  states := (w.states.map (·.state)).filter (·.1 != "End")

end Written

/-- Rows that say the same as some lines: with comments, with white space at the ends of lines,
and with more blank lines after a blank line or at the end. The flag tells that a blank line came
last. -/
inductive Spaced : Bool → List (List Char) → List (List Char) → Prop
  | done {flag : Bool} : Spaced flag [] []
  | line {flag : Bool} (line blanks : List Char) {plain rows : List (List Char)} :
      Blanks blanks → Spaced line.isEmpty plain rows →
      Spaced flag (line :: plain) ((line ++ blanks) :: rows)
  | comment {flag : Bool} {comment : List Char} {plain rows : List (List Char)} :
      isComment comment = true → '\n' ∉ comment → Spaced flag plain rows →
      Spaced flag plain (comment :: rows)
  | blank {flag : Bool} {blanks : List Char} {plain rows : List (List Char)} :
      Blanks blanks → flag = true ∨ plain = [] → Spaced flag plain rows →
      Spaced flag plain (blanks :: rows)

theorem Spaced.refl (ls : List (List Char)) : ∀ flag, Spaced flag ls ls := by
  induction ls with
  | nil => exact fun _ => .done
  | cons line ls ih =>
    intro flag
    have hline : Spaced flag (line :: ls) ((line ++ []) :: ls) :=
      .line line [] (fun _ hc => by cases hc) (ih line.isEmpty)
    rwa [List.append_nil] at hline

def Rule.unnumbered (rule : Rule) : Rule := { rule with lineNumber := 0 }

/-- A template without the numbers of its rules. -/
def Template.unnumbered (t : Template) : Template :=
  { t with states := t.states.map fun (name, rules) => (name, rules.map Rule.unnumbered) }

/-- The numbers of the rows from `k` on that are rules. -/
def ruleNumbers (k : Nat) (rows : List (List Char)) : List Nat :=
  ((numberFrom k rows).filter (isRuleLine ·.2)).map (·.1)

/-! ## Rows -/

theorem ruleNumbers_cons (k : Nat) (row : List Char) (rows : List (List Char)) :
    ruleNumbers k (row :: rows) =
      if isRuleLine row = true then k :: ruleNumbers (k + 1) rows
      else ruleNumbers (k + 1) rows := by
  simp only [ruleNumbers, numberFrom_cons, List.filter_cons]
  split <;> simp

theorem isRuleLine_blanks {blanks : List Char} (h : Blanks blanks) : isRuleLine blanks = false := by
  rw [← isRuleLine_trimEnd, h.trimEnd]
  rfl

theorem isRuleLine_append_blanks (line : List Char) {blanks : List Char} (h : Blanks blanks) :
    isRuleLine (line ++ blanks) = isRuleLine line := by
  rw [← isRuleLine_trimEnd, trimEnd_append_blanks line h, isRuleLine_trimEnd]

theorem Spaced.single {flag : Bool} {plain rows : List (List Char)} (h : Spaced flag plain rows)
    (hp : ∀ line ∈ plain, '\n' ∉ line) : ∀ row ∈ rows, '\n' ∉ row := by
  induction h with
  | done => exact fun row hr => by cases hr
  | @line flag line blanks plain rows hb _ ih =>
    intro row hr
    rcases List.mem_cons.mp hr with rfl | hr
    · intro hm
      rcases List.mem_append.mp hm with hm | hm
      · exact hp line (by simp) hm
      · exact (hb _ hm).2 rfl
    · exact ih (fun l hl => hp l (by simp [hl])) row hr
  | comment _ hc _ ih =>
    intro row hr
    rcases List.mem_cons.mp hr with rfl | hr
    · exact hc
    · exact ih hp row hr
  | blank hb _ _ ih =>
    intro row hr
    rcases List.mem_cons.mp hr with rfl | hr
    · exact fun hm => (hb _ hm).2 rfl
    · exact ih hp row hr

/-! ## Reading values -/

namespace ValueLine

theorem exists_cons (v : ValueLine) : ∃ rest, v.line = 'V' :: rest := by
  obtain ⟨rest, hrest⟩ := startsWith_iff.mp v.begins
  exact ⟨_, hrest.symm⟩

theorem trimEnd_append (v : ValueLine) {blanks : List Char} (h : Blanks blanks) :
    trimEnd (v.line ++ blanks) = v.line := by
  rw [trimEnd_append_blanks v.line h, trimEnd_of_parse v.parses]

theorem isRuleLine (v : ValueLine) : isRuleLine v.line = false := by
  obtain ⟨rest, hrest⟩ := v.exists_cons
  rw [hrest]
  exact isRuleLine_of_not_isBlank (by decide) rest

end ValueLine

theorem readValues_value (v : ValueLine) {blanks : List Char} (h : Blanks blanks)
    {values : List Declaration} (hnew : v.value.name ∉ values.map (·.name)) (k : Nat)
    (rest : List NumberedLine) :
    readValues values ((k, v.line ++ blanks) :: rest) = readValues (values ++ [v.value]) rest := by
  have hdeclares : Declares (v.line ++ blanks) v.value := by
    constructor
    · rw [v.trimEnd_append h, v.begins]
    · rw [v.trimEnd_append h, v.parses]
  rw [hdeclares.readValues_cons, if_neg (by simpa using hnew)]

/-- The values are read up to the first blank line, and rows that say the rest are left. -/
def ValuesRead (plain rows : List (List Char)) : Prop :=
  ∀ (values : List ValueLine) (rest : List (List Char)) (read : List Declaration) (k : Nat),
    plain = values.map (·.line) ++ [] :: rest →
    (read.map (·.name) ++ values.map (·.value.name)).Nodup →
    ∃ j more, readValues read (numberFrom k rows) =
        .ok (read ++ values.map (·.value), numberFrom j more) ∧
      Spaced true rest more ∧ ruleNumbers k rows = ruleNumbers j more

namespace ValuesRead

variable {plain rows : List (List Char)}

theorem nil (rows : List (List Char)) : ValuesRead [] rows := by
  intro values rest read k hp _
  cases values <;> cases hp

theorem line {line blanks : List Char} (hb : Blanks blanks)
    (hempty : line = [] → Spaced true plain rows) (hline : line ≠ [] → ValuesRead plain rows) :
    ValuesRead (line :: plain) ((line ++ blanks) :: rows) := by
  intro values rest read k hp hn
  cases values with
  | nil =>
    cases hp
    refine ⟨k + 1, rows, ?_, hempty rfl, ?_⟩
    · rw [numberFrom_cons, List.nil_append, readValues_blank hb.trimEnd]
      simp
    · simp [ruleNumbers_cons, isRuleLine_blanks hb]
  | cons v values =>
    cases hp
    have hne : v.line ≠ [] := by
      obtain ⟨rest, hrest⟩ := v.exists_cons
      rw [hrest]
      exact List.cons_ne_nil 'V' rest
    have hnew : v.value.name ∉ read.map (·.name) := by
      intro hm
      exact (List.nodup_append.mp hn).2.2 _ hm _ (by simp) rfl
    obtain ⟨j, more, hread, hmore, hnumbers⟩ :=
      hline hne values rest (read ++ [v.value]) (k + 1) rfl (by simpa using hn)
    refine ⟨j, more, ?_, hmore, ?_⟩
    · rw [numberFrom_cons, readValues_value v hb hnew, hread]
      simp
    · simp [ruleNumbers_cons, isRuleLine_append_blanks _ hb, v.isRuleLine, hnumbers]

theorem comment {comment : List Char} (hc : isComment comment = true) (h : ValuesRead plain rows) :
    ValuesRead plain (comment :: rows) := by
  intro values rest read k hp hn
  obtain ⟨j, more, hread, hmore, hnumbers⟩ := h values rest read (k + 1) hp hn
  refine ⟨j, more, ?_, hmore, ?_⟩
  · rw [numberFrom_cons, readValues_comment hc, hread]
  · simp [ruleNumbers_cons, isRuleLine_of_isComment hc, hnumbers]

end ValuesRead

theorem readValues_spaced {flag : Bool} {plain rows : List (List Char)}
    (h : Spaced flag plain rows) : flag = false → ValuesRead plain rows := by
  induction h with
  | done => exact fun _ => .nil []
  | line line blanks hb hs ih =>
    intro _
    refine .line hb (fun he => ?_) fun hne => ih (by simpa using hne)
    rwa [he] at hs
  | comment hc _ _ ih => exact fun hf => (ih hf).comment hc
  | blank _ hflag _ _ =>
    intro hf
    rcases hflag with hflag | rfl
    · rw [hf] at hflag
      cases hflag
    · exact .nil _

/-! ## Reading states -/

def unnumberedState (state : String × List Rule) : String × List Rule :=
  (state.1, state.2.map Rule.unnumbered)

/-- States say what is written, and number their rules as the rows from `k` on do. -/
structure ReadFrom (k : Nat) (rows : List (List Char)) (written read : List (String × List Rule)) :
    Prop where
  same : read.map unnumberedState = written.map unnumberedState
  numbers : (read.flatMap (·.2)).map (·.lineNumber) = ruleNumbers k rows

namespace ReadFrom

variable {k : Nat} {row : List Char} {rows : List (List Char)}
  {written read : List (String × List Rule)}

theorem skip (h : ReadFrom (k + 1) rows written read) (hr : isRuleLine row = false) :
    ReadFrom k (row :: rows) written read :=
  ⟨h.same, by simp [ruleNumbers_cons, hr, h.numbers]⟩

theorem opened (h : ReadFrom k rows written read) (name : String) :
    ReadFrom k rows ((name, []) :: written) ((name, []) :: read) :=
  ⟨by simp [h.same], by simp [h.numbers]⟩

theorem rule {name : String} {rules own : List Rule} {rule : Rule}
    (h : ReadFrom (k + 1) rows ((name, rules) :: written) ((name, own) :: read))
    (hr : isRuleLine row = true) :
    ReadFrom k (row :: rows) ((name, rule :: rules) :: written)
      ((name, { rule with lineNumber := k } :: own) :: read) := by
  obtain ⟨hsame, hnumbers⟩ := h
  simp only [List.map_cons, unnumberedState, List.cons.injEq, Prod.mk.injEq, true_and] at hsame
  refine ⟨?_, ?_⟩
  · simp [unnumberedState, Rule.unnumbered, hsame]
  · simpa [ruleNumbers_cons, hr] using hnumbers

end ReadFrom

section

variable {templates : Templates}

theorem readStates_comment {raw : List Char} (h : isComment raw = true)
    (current : Option (String × List Rule)) (states : List (String × List Rule)) (k : Nat)
    (rest : List NumberedLine) :
    readStates templates current states ((k, raw) :: rest) =
      readStates templates current states rest := by
  cases current <;> simp [readStates, isComment_trimEnd, h, trimEnd_ne_nil_of_isComment h]

theorem readStates_blank {raw : List Char} (h : trimEnd raw = [])
    (current : Option (String × List Rule)) (states : List (String × List Rule)) (k : Nat)
    (rest : List NumberedLine) :
    readStates templates current states ((k, raw) :: rest) =
      readStates templates none (states ++ current.toList) rest := by
  cases current <;> simp [readStates, h]

namespace StateBlock

variable (block : StateBlock templates)

theorem isWord_name : ∀ c ∈ block.name.toList, isWord c = true :=
  (isWord_of_isUsableStateName block.usable).2

theorem name_ne_nil : block.name.toList ≠ [] :=
  (isWord_of_isUsableStateName block.usable).1

theorem exists_cons : ∃ c rest, block.name.toList = c :: rest ∧ isWord c = true := by
  obtain ⟨c, rest, hname⟩ := List.exists_cons_of_ne_nil block.name_ne_nil
  exact ⟨c, rest, hname, block.isWord_name c (by simp [hname])⟩

theorem trimEnd_name : trimEnd block.name.toList = block.name.toList := by
  have hlast := block.isWord_name _ (List.getLast_mem block.name_ne_nil)
  have happend := trimEnd_append_of_not_isBlank (isBlank_of_isWord hlast) block.name.toList.dropLast
  rwa [List.dropLast_concat_getLast] at happend

theorem isComment_name : isComment block.name.toList = false := by
  obtain ⟨c, rest, hname, hword⟩ := block.exists_cons
  have hsharp : c ≠ '#' := by
    rintro rfl
    revert hword
    decide
  rw [hname, isComment, trimStart_cons_of_not_isBlank (isBlank_of_isWord hword)]
  simpa using hsharp

theorem isRuleLine_name : isRuleLine block.name.toList = false := by
  obtain ⟨c, rest, hname, hword⟩ := block.exists_cons
  rw [hname]
  exact isRuleLine_of_not_isBlank (isBlank_of_isWord hword) rest

end StateBlock

theorem readStates_name (block : StateBlock templates) {blanks : List Char} (h : Blanks blanks)
    {states : List (String × List Rule)} (hnew : block.name ∉ states.map (·.1)) (k : Nat)
    (rest : List NumberedLine) :
    readStates templates none states ((k, block.name.toList ++ blanks) :: rest) =
      readStates templates (some (block.name, [])) states rest := by
  have hany : states.any (·.1 == block.name) = false := by
    rw [List.any_eq_false]
    exact fun state hs he => hnew (List.mem_map.mpr ⟨state, hs, eq_of_beq he⟩)
  have hempty : block.name.toList.isEmpty = false := by
    simpa using block.name_ne_nil
  simp [readStates, trimEnd_append_blanks _ h, block.trimEnd_name, hempty, block.isComment_name,
    block.usable, hany]

theorem readStates_rule (line : RuleLine templates) {blanks : List Char} (h : Blanks blanks)
    (name : String) (rules : List Rule) (states : List (String × List Rule)) (k : Nat)
    (rest : List NumberedLine) :
    readStates templates (some (name, rules)) states ((k, line.line ++ blanks) :: rest) =
      readStates templates (some (name, rules ++ [{ line.rule with lineNumber := k }])) states
        rest := by
  have hrule : isRuleLine (line.line ++ blanks) = true := by
    rw [isRuleLine_append_blanks _ h, line.indented]
  have hparse := parse_renumber line.parses k
  rw [← parse_append_blanks templates line.line h] at hparse
  simp [readStates, isComment_trimEnd, isRuleLine_trimEnd, hrule, isComment_of_isRuleLine hrule,
    trimEnd_ne_nil_of_isRuleLine hrule, hparse]

variable (templates) in
/-- Between two states, where the next name or the end is awaited, rows are read as what some lines
say. -/
def BlocksRead (plain rows : List (List Char)) : Prop :=
  ∀ (blocks : List (StateBlock templates)) (states : List (String × List Rule)) (k : Nat),
    plain = blocks.flatMap (·.lines) → (states.map (·.1) ++ blocks.map (·.name)).Nodup →
    ∃ read, readStates templates none states (numberFrom k rows) = .ok (states ++ read) ∧
      ReadFrom k rows (blocks.map (·.state)) read

variable (templates) in
/-- So they are in a state, where its next rule or the blank line that ends it is awaited. -/
def RulesRead (plain rows : List (List Char)) : Prop :=
  ∀ (name : String) (rules : List Rule) (lines : List (RuleLine templates))
    (blocks : List (StateBlock templates)) (states : List (String × List Rule)) (k : Nat),
    plain = lines.map (·.line) ++ [] :: blocks.flatMap (·.lines) →
    (states.map (·.1) ++ name :: blocks.map (·.name)).Nodup →
    ∃ own read, readStates templates (some (name, rules)) states (numberFrom k rows) =
        .ok (states ++ (name, rules ++ own) :: read) ∧
      ReadFrom k rows ((name, lines.map (·.rule)) :: blocks.map (·.state)) ((name, own) :: read)

section

variable {plain rows : List (List Char)}

theorem BlocksRead.nil : BlocksRead templates [] [] := by
  intro blocks states k hp _
  cases blocks with
  | nil => exact ⟨[], by simp [readStates], ⟨rfl, rfl⟩⟩
  | cons block blocks => cases hp

/-- A state ends in a blank line, so the lines do not end inside it. -/
theorem RulesRead.nil (rows : List (List Char)) : RulesRead templates [] rows := by
  intro name rules lines blocks states k hp _
  cases lines <;> cases hp

/-- A name opens the state whose rules follow. -/
theorem BlocksRead.name {line blanks : List Char} (hb : Blanks blanks)
    (h : line ≠ [] → RulesRead templates plain rows) :
    BlocksRead templates (line :: plain) ((line ++ blanks) :: rows) := by
  intro blocks states k hp hn
  cases blocks with
  | nil => cases hp
  | cons block blocks =>
    obtain ⟨rfl, rfl⟩ : line = block.name.toList ∧
        plain = block.rules.map (·.line) ++ [] :: blocks.flatMap (·.lines) := by
      simpa [StateBlock.lines] using hp
    have hnew : block.name ∉ states.map (·.1) := by
      intro hm
      exact (List.nodup_append.mp hn).2.2 _ hm _ (by simp) rfl
    obtain ⟨own, read, hread, hfrom⟩ := h block.name_ne_nil block.name [] block.rules blocks states
      (k + 1) rfl (by simpa using hn)
    refine ⟨(block.name, own) :: read, ?_, hfrom.skip ?_⟩
    · rw [numberFrom_cons, readStates_name block hb hnew, hread]
      simp
    · rw [isRuleLine_append_blanks _ hb, block.isRuleLine_name]

/-- A blank line ends the state, and any other line is a rule of it. -/
theorem RulesRead.line {line blanks : List Char} (hb : Blanks blanks)
    (hempty : line = [] → BlocksRead templates plain rows)
    (hline : line ≠ [] → RulesRead templates plain rows) :
    RulesRead templates (line :: plain) ((line ++ blanks) :: rows) := by
  intro name rules lines blocks states k hp hn
  cases lines with
  | nil =>
    cases hp
    obtain ⟨read, hread, hfrom⟩ :=
      hempty rfl blocks (states ++ [(name, rules)]) (k + 1) rfl (by simpa using hn)
    refine ⟨[], read, ?_, (hfrom.opened name).skip (isRuleLine_blanks hb)⟩
    rw [numberFrom_cons, List.nil_append, readStates_blank hb.trimEnd, Option.toList_some, hread]
    simp
  | cons rule lines =>
    cases hp
    have hne : rule.line ≠ [] := by
      obtain ⟨⟨c, rest, hline, _⟩, _⟩ := exists_of_isRuleLine rule.indented
      rw [hline]
      exact List.cons_ne_nil c rest
    obtain ⟨own, read, hread, hfrom⟩ := hline hne name
      (rules ++ [{ rule.rule with lineNumber := k }]) lines blocks states (k + 1) rfl hn
    refine ⟨{ rule.rule with lineNumber := k } :: own, read, ?_, hfrom.rule ?_⟩
    · rw [numberFrom_cons, readStates_rule rule hb, hread]
      simp
    · rw [isRuleLine_append_blanks _ hb, rule.indented]

theorem BlocksRead.comment {comment : List Char} (hc : isComment comment = true)
    (h : BlocksRead templates plain rows) : BlocksRead templates plain (comment :: rows) := by
  intro blocks states k hp hn
  obtain ⟨read, hread, hfrom⟩ := h blocks states (k + 1) hp hn
  exact ⟨read, by rw [numberFrom_cons, readStates_comment hc, hread],
    hfrom.skip (isRuleLine_of_isComment hc)⟩

theorem RulesRead.comment {comment : List Char} (hc : isComment comment = true)
    (h : RulesRead templates plain rows) : RulesRead templates plain (comment :: rows) := by
  intro name rules lines blocks states k hp hn
  obtain ⟨own, read, hread, hfrom⟩ := h name rules lines blocks states (k + 1) hp hn
  exact ⟨own, read, by rw [numberFrom_cons, readStates_comment hc, hread],
    hfrom.skip (isRuleLine_of_isComment hc)⟩

theorem BlocksRead.blank {blanks : List Char} (hb : Blanks blanks)
    (h : BlocksRead templates plain rows) : BlocksRead templates plain (blanks :: rows) := by
  intro blocks states k hp hn
  obtain ⟨read, hread, hfrom⟩ := h blocks states (k + 1) hp hn
  refine ⟨read, ?_, hfrom.skip (isRuleLine_blanks hb)⟩
  rw [numberFrom_cons, readStates_blank hb.trimEnd, Option.toList_none, List.append_nil, hread]

end

/-- The flag tells where a row stands: behind a blank line, so between two states, or in a state. -/
theorem readStates_spaced {flag : Bool} {plain rows : List (List Char)}
    (h : Spaced flag plain rows) :
    (flag = true → BlocksRead templates plain rows) ∧
      (flag = false → RulesRead templates plain rows) := by
  induction h with
  | done => exact ⟨fun _ => .nil, fun _ => .nil []⟩
  | @line flag line blanks plain rows hb _ ih =>
    have hline : line ≠ [] → RulesRead templates plain rows :=
      fun hne => ih.2 (by simpa using hne)
    exact ⟨fun _ => .name hb hline, fun _ => .line hb (fun he => ih.1 (by simpa using he)) hline⟩
  | comment hc _ _ ih => exact ⟨fun hf => (ih.1 hf).comment hc, fun hf => (ih.2 hf).comment hc⟩
  | blank hb hflag _ ih =>
    refine ⟨fun hf => (ih.1 hf).blank hb, fun hf => ?_⟩
    rcases hflag with hflag | rfl
    · rw [hf] at hflag
      cases hflag
    · exact .nil _

end

/-! ## Compiling -/

namespace ReadFrom

variable {k : Nat} {rows : List (List Char)} {w : Written} {read : List (String × List Rule)}

theorem names (h : ReadFrom k rows (w.states.map (·.state)) read) :
    read.map (·.1) = w.states.map (·.name) := by
  have hsame := congrArg (List.map (·.1)) h.same
  simpa only [List.map_map, Function.comp_def, unnumberedState, StateBlock.state] using hsame

theorem exists_block (h : ReadFrom k rows (w.states.map (·.state)) read) {state : String}
    {rules : List Rule} (hm : (state, rules) ∈ read) :
    ∃ block ∈ w.states, block.name = state ∧
      rules.map Rule.unnumbered = block.rules.map (·.rule.unnumbered) := by
  have hstate := List.mem_map_of_mem (f := unnumberedState) hm
  rw [h.same, List.map_map, List.mem_map] at hstate
  obtain ⟨block, hblock, he⟩ := hstate
  simp only [Function.comp_apply, unnumberedState, StateBlock.state, List.map_map,
    Prod.mk.injEq] at he
  exact ⟨block, hblock, he.1, he.2.symm⟩

theorem stops (h : ReadFrom k rows (w.states.map (·.state)) read) {state : String}
    {rules : List Rule} (hm : (state, rules) ∈ read) (hs : isStop state = true) : rules = [] := by
  obtain ⟨block, hblock, rfl, hrules⟩ := h.exists_block hm
  rw [w.stops block hblock hs] at hrules
  simpa using hrules

theorem targets (h : ReadFrom k rows (w.states.map (·.state)) read) {state target : String}
    {rules : List Rule} {rule : Rule} (hm : (state, rules) ∈ read) (hr : rule ∈ rules)
    (ho : rule.action.lineOp ≠ .reject) (ht : rule.action.target = some target) :
    target ∈ read.map (·.1) ∨ isStop target = true := by
  obtain ⟨block, hblock, rfl, hrules⟩ := h.exists_block hm
  have hrule := List.mem_map_of_mem (f := Rule.unnumbered) hr
  rw [hrules, List.mem_map] at hrule
  obtain ⟨line, hline, he⟩ := hrule
  have haction : line.rule.action = rule.action := by
    change line.rule.unnumbered.action = rule.unnumbered.action
    rw [he]
  rw [h.names]
  exact w.targets block hblock line hline target (haction ▸ ho) (haction ▸ ht)

theorem check (h : ReadFrom k rows (w.states.map (·.state)) read) (values : List Declaration) :
    (⟨values, read⟩ : Template).check = .ok ⟨values, read.filter (·.1 != "End")⟩ := by
  refine check_eq_ok (t := ⟨values, read⟩) ?_ (fun _ _ => h.stops)
    (fun _ _ _ _ hm hr => h.targets hm hr)
  rw [Template.stateNames, h.names]
  exact w.start

/-- Dropping `End` drops no rule. -/
theorem rules_filter (h : ReadFrom k rows (w.states.map (·.state)) read) :
    (read.filter (·.1 != "End")).flatMap (·.2) = read.flatMap (·.2) := by
  have hend : ∀ state ∈ read, state.1 = "End" → state.2 = [] :=
    fun state hm he => h.stops hm (by simp [isStop, he])
  clear h
  induction read with
  | nil => rfl
  | cons state read ih =>
    have ih := ih fun state hm => hend state (by simp [hm])
    by_cases he : state.1 = "End"
    · simp [he, hend state (by simp) he, ih]
    · simp [he, ih]

end ReadFrom

theorem ofLines_spaced (w : Written) {rows : List (List Char)} (h : Spaced false w.lines rows) :
    ∃ t, Template.ofLines rows = .ok t ∧ t.unnumbered = w.template.unnumbered ∧
      (t.states.flatMap (·.2)).map (·.lineNumber) = ruleNumbers 1 rows := by
  obtain ⟨j, more, hvalues, hmore, hnumbers⟩ :=
    readValues_spaced h rfl w.values (w.states.flatMap (·.lines)) [] 1 rfl
      (by simpa using w.valueNames)
  obtain ⟨read, hstates, hfrom⟩ :=
    (readStates_spaced hmore).1 rfl w.states [] j rfl (by simpa using w.stateNames)
  refine ⟨⟨w.values.map (·.value), read.filter (·.1 != "End")⟩, ?_, ?_, ?_⟩
  · simp only [List.nil_append] at hvalues hstates
    simp only [Template.ofLines, hvalues, bind, Except.bind, hstates, hfrom.check]
  · have hfilter := congrArg (List.filter (·.1 != "End")) hfrom.same
    rw [List.filter_map, List.filter_map] at hfilter
    exact congrArg (Template.mk _) hfilter
  · rw [hfrom.rules_filter, hfrom.numbers, hnumbers]

theorem unlines_eq_nil {ls : List (List Char)} (h : unlines ls = []) : ls = [] := by
  cases ls with
  | nil => rfl
  | cons l ls => simp [unlines] at h

namespace Written

theorem single (w : Written) : ∀ line ∈ w.lines, '\n' ∉ line := by
  intro line hm
  simp only [lines, StateBlock.lines, List.mem_append, List.mem_map, List.mem_cons,
    List.mem_flatMap, List.not_mem_nil, or_false] at hm
  rcases hm with ⟨v, _, rfl⟩ | rfl | ⟨block, _, (rfl | ⟨rule, _, rfl⟩) | rfl⟩
  · exact v.single
  · simp
  · intro hm
    have hword := block.isWord_name _ hm
    revert hword
    decide
  · exact rule.single
  · simp

theorem lines_ne_nil (w : Written) : w.lines ≠ [] := by
  simp [lines]

end Written

theorem compile_unlines (w : Written) {rows : List (List Char)} (h : Spaced false w.lines rows)
    (text : String) (htext : text.toList = unlines rows) :
    ∃ t, Template.compile text = .ok t ∧ t.unnumbered = w.template.unnumbered ∧
      (t.states.flatMap (·.2)).map (·.lineNumber) = ruleNumbers 1 rows := by
  have hne : text ≠ "" := by
    rintro rfl
    obtain rfl := unlines_eq_nil htext.symm
    cases hw : w.lines with
    | nil => exact w.lines_ne_nil hw
    | cons line ls => rw [hw] at h; cases h
  have hlines : Template.ofLines (lines text.toList) = Template.ofLines rows := by
    rw [htext, lines_unlines (h.single w.single), ← ofLines_map_trimEnd, ← ofLines_map_trimEnd rows]
    simp [Function.comp_def, trimEnd_dropReturn]
  rw [compile_eq_ofLines hne, hlines]
  exact ofLines_spaced w h

/-- **Layout.** Comments, more blank lines and white space at the ends of lines never change what a
template compiles to: its values, and its states with their rules, but `End`, each rule numbered by
its own line. The last line feed may be missing. -/
theorem compile_spaced (w : Written) {rows : List (List Char)} (h : Spaced false w.lines rows)
    (text : String) (htext : text.toList = unlines rows ∨ text.toList ++ ['\n'] = unlines rows) :
    ∃ t plain, Template.compile text = .ok t ∧
      Template.compile (String.ofList (unlines w.lines)) = .ok plain ∧
      t.unnumbered = w.template.unnumbered ∧ t.unnumbered = plain.unnumbered ∧
      (t.states.flatMap (·.2)).map (·.lineNumber) = ruleNumbers 1 rows := by
  obtain ⟨plain, hplain, hsame, _⟩ := compile_unlines w (Spaced.refl w.lines false)
    (String.ofList (unlines w.lines)) (by simp)
  have ht : ∃ t, Template.compile text = .ok t ∧ t.unnumbered = w.template.unnumbered ∧
      (t.states.flatMap (·.2)).map (·.lineNumber) = ruleNumbers 1 rows := by
    rcases htext with htext | htext
    · exact compile_unlines w h text htext
    · obtain ⟨t, hcompile, ht⟩ := compile_unlines w h (text ++ "\n") (by simp [htext])
      have hne : text ≠ "" := by
        rintro rfl
        cases hcompile
      exact ⟨t, by rw [← hcompile, compile_append_newline hne], ht⟩
  obtain ⟨t, hcompile, ht, hnumbers⟩ := ht
  exact ⟨t, plain, hcompile, hplain, ht, by rw [ht, hsame], hnumbers⟩

/-! A table of ports, with comments and with more white space than it needs. -/

def portValue : ValueLine where
  line := "Value Port (\\d+)".toList
  value := (Declaration.parse "Value Port (\\d+)").toOption.getD default
  begins := by decide
  parses := eq_ok_getD (by decide +kernel)
  single := by decide

def readPortRule : Except RuleError Rule :=
  Rule.parse (templatesOf [portValue.value]) "  ^port ${Port} -> Record" 0

def portRule : RuleLine (templatesOf [portValue.value]) where
  line := "  ^port ${Port} -> Record".toList
  rule := readPortRule.toOption.getD default
  indented := by decide
  parses := by
    have hnumber : (readPortRule.toOption.getD default).lineNumber = 0 := by decide +kernel
    rw [hnumber]
    exact eq_ok_getD (by decide +kernel)
  single := by decide

def portStart : StateBlock (templatesOf [portValue.value]) where
  name := "Start"
  rules := [portRule]
  usable := by decide

def portTemplate : Written where
  values := [portValue]
  states := [portStart]
  valueNames := List.pairwise_singleton _ _
  stateNames := List.pairwise_singleton _ _
  start := List.mem_singleton_self _
  stops := by
    intro block hb hs
    obtain rfl := List.mem_singleton.mp hb
    exact absurd hs (by decide)
  targets := by
    intro block hb line hl target _ ht
    obtain rfl := List.mem_singleton.mp hb
    obtain rfl := List.mem_singleton.mp hl
    have hnone : portRule.rule.action.target = none := by decide +kernel
    rw [hnone] at ht
    cases ht

def portRows : List (List Char) :=
  ["# ports".toList, "Value Port (\\d+)  ".toList, " \t".toList, "Start".toList, "# rule".toList,
    "  ^port ${Port} -> Record ".toList, [], [], "# end".toList]

theorem spaced_portRows : Spaced false portTemplate.lines portRows :=
  .comment (by decide) (by decide) <|
  .line portValue.line [' ', ' '] (by decide) <|
  .line [] [' ', '\t'] (by decide) <|
  .line portStart.name.toList [] (by decide) <|
  .comment (by decide) (by decide) <|
  .line portRule.line [' '] (by decide) <|
  .line [] [] (by decide) <|
  .blank (by decide) (.inl rfl) <|
  .comment (by decide) (by decide) .done

/-- The last line has no line feed, and the rule stands on the sixth. -/
theorem compile_spaced_ports :
    ∃ t plain,
      Template.compile ("# ports\nValue Port (\\d+)  \n \t\nStart\n# rule\n" ++
        "  ^port ${Port} -> Record \n\n\n# end") = .ok t ∧
      Template.compile "Value Port (\\d+)\n\nStart\n  ^port ${Port} -> Record\n\n" = .ok plain ∧
      t.unnumbered = plain.unnumbered ∧ (t.states.flatMap (·.2)).map (·.lineNumber) = [6] := by
  obtain ⟨t, plain, ht, hplain, _, hsame, hnumbers⟩ := compile_spaced portTemplate spaced_portRows
    ("# ports\nValue Port (\\d+)  \n \t\nStart\n# rule\n" ++
      "  ^port ${Port} -> Record \n\n\n# end") (.inr (by decide))
  have hwritten : String.ofList (unlines portTemplate.lines) =
      "Value Port (\\d+)\n\nStart\n  ^port ${Port} -> Record\n\n" := by decide
  rw [hwritten] at hplain
  exact ⟨t, plain, ht, hplain, hsame, hnumbers.trans (by decide)⟩

end TemplateBench.TextFsm
