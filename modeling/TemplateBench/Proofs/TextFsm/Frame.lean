import TemplateBench.Proofs.Regex.Headers
import TemplateBench.Proofs.TextFsm.Backfill
import TemplateBench.Proofs.TextFsm.Expansion
import TemplateBench.Proofs.TextFsm.OneGroup
import TemplateBench.Proofs.TextFsm.RuleLines

/-!
Which values a rule gives its captures to.

* `Sourced`: where a rule may have the group for a value from. It is a placeholder of the value, a
  group in the pattern of the rule, or a group in the regex of a value with a placeholder there.
* `names_sourced`: the expression of a rule has no other named groups.
* `applyRule_frame`: so the captures of a rule change the cell and the column of no other value.
* `applyRule_nestedGroup`: a rule does assign a value that it does not name, by a group in the regex
  of another one.
-/
namespace TemplateBench.Regex
open Text

/-! ## Headers in a longer text -/

namespace Header

variable {name : String} {header : List Char}

/-- A header goes on behind its parenthesis without another one and without a dollar sign. -/
theorem exists_tail (h : Header name header) :
    ∃ tail, header = '(' :: tail ∧ ∀ c ∈ tail, c ≠ '(' ∧ c ≠ ')' ∧ c ≠ '$' ∧ c ≠ ':' := by
  obtain ⟨hgap, hmark, hname⟩ := h
  rename_i gap mark
  have hkinds : ∀ c : Char, isBlank c = true ∨ isNameChar c = true ∨ c ∈ ['?', 'P', '<', '>'] →
      c ≠ '(' ∧ c ≠ ')' ∧ c ≠ '$' ∧ c ≠ ':' := by
    intro c hc
    refine ⟨?_, ?_, ?_, ?_⟩ <;> rintro rfl <;> revert hc <;> decide +kernel
  refine ⟨_, rfl, fun c hc => hkinds c ?_⟩
  simp only [List.mem_append, List.mem_cons, List.not_mem_nil, or_false] at hc
  rcases hc with hc | rfl | hc | hc | rfl
  · exact .inl (hgap c hc)
  · simp
  · refine .inr (.inr ?_)
    rcases hmark with rfl | rfl
    · rcases List.mem_pair.mp hc with rfl | rfl <;> simp
    · rw [List.mem_singleton.mp hc]
      simp
  · exact .inr (.inl (hname c hc))
  · simp

theorem not_mem_closing (h : Header name header) : ')' ∉ header ∧ ':' ∉ header := by
  obtain ⟨tail, rfl, htail⟩ := h.exists_tail
  refine ⟨fun hm => ?_, fun hm => ?_⟩
  · rcases List.mem_cons.mp hm with hm | hm
    · exact absurd hm (by decide)
    · exact (htail _ hm).2.1 rfl
  · rcases List.mem_cons.mp hm with hm | hm
    · exact absurd hm (by decide)
    · exact (htail _ hm).2.2.2 rfl

theorem mem_bracket (h : Header name header) : '>' ∈ header := by
  obtain ⟨_, _, _⟩ := h
  simp

/-- Within a named group a header is that of the group, or it belongs to a group in it. -/
theorem infix_named (h : Header name header) {own inner : List Char} (hopen : '(' ∉ own)
    (hclose : '>' ∉ own)
    (hi : header <:+: '(' :: '?' :: 'P' :: '<' :: (own ++ '>' :: inner)) :
    name.toList = own ∨ header <:+: inner := by
  obtain ⟨tail, hheader, _⟩ := h.exists_tail
  rcases List.infix_cons_iff.mp hi with hprefix | hinfix
  · refine .inl ?_
    obtain ⟨hgap, hmark, hname⟩ := h
    rename_i gap mark
    have hprefix := (List.cons_prefix_cons.mp hprefix).2
    cases gap with
    | cons c gap =>
      obtain ⟨rfl, _⟩ := List.cons_prefix_cons.mp hprefix
      exact absurd (hgap '?' List.mem_cons_self) (by decide)
    | nil =>
      have hprefix := (List.cons_prefix_cons.mp hprefix).2
      rcases hmark with rfl | rfl
      · have hnames : name.toList ++ ['>'] <+: own ++ '>' :: inner :=
          (List.cons_prefix_cons.mp (List.cons_prefix_cons.mp hprefix).2).2
        obtain ⟨rest, hrest⟩ := hnames
        have hbefore : '>' ∉ name.toList := fun hm => absurd (hname _ hm) (by decide +kernel)
        have htake := congrArg (List.takeWhile (· ≠ '>')) hrest
        have hstop : ∀ front back : List Char, '>' ∉ front →
            (front ++ '>' :: back).takeWhile (· ≠ '>') = front := by
          intro front back hfront
          rw [List.takeWhile_append_of_pos fun c hc => by
            simpa using fun he : c = '>' => hfront (he ▸ hc)]
          simp
        rwa [List.append_assoc, List.singleton_append, hstop _ _ hbefore, hstop _ _ hclose] at htake
      · exact absurd (List.cons_prefix_cons.mp hprefix).1 (by decide)
  · rw [hheader] at hinfix ⊢
    have hfront : ∀ c, c ∈ '?' :: 'P' :: '<' :: (own ++ ['>']) → c ≠ '(' := by
      intro c hc
      simp only [List.mem_cons, List.mem_append, List.not_mem_nil, or_false] at hc
      rcases hc with rfl | rfl | rfl | hc | rfl
      case inr.inr.inr.inl => exact fun he => hopen (he ▸ hc)
      all_goals decide
    have hsplit : '(' :: tail <:+: '?' :: 'P' :: '<' :: (own ++ ['>']) ++ inner := by
      simpa using hinfix
    exact .inr (Text.infix_of_infix_append hsplit fun hm => hfront _ hm rfl)

end Header

end TemplateBench.Regex

namespace TemplateBench.TextFsm
open Text
open Regex (Header read_headers)

/-! ## Expanded patterns -/

section

variable {templates : Templates} {cs tail header : List Char} {pieces : List Piece}
  {texts : List (List Char)} {name : String}

theorem Cuts.mem_of_char (h : Cuts cs pieces) {c : Char} (hm : .char c ∈ pieces) : c ∈ cs := by
  induction h with
  | nil => cases hm
  | char _ _ ih =>
    rcases List.mem_cons.mp hm with he | hm
    · cases he
      exact List.mem_cons_self
    · exact List.mem_cons_of_mem _ (ih hm)
  | dollar _ ih => simp [ih (by simpa using hm)]
  | braced _ _ ih | bare _ _ _ ih => simp [ih (by simpa using hm)]

/-- What is neither in the pattern nor in the templates is not in the expanded pattern. -/
theorem mem_of_mem_texts (hcuts : Cuts cs pieces)
    (htexts : List.Forall₂ (fun piece text => piece.text templates = .ok text) pieces texts)
    {c : Char} (hc : c ∈ texts.flatten) (hdollar : c ≠ '$') :
    c ∈ cs ∨ ∃ name template, .value name ∈ pieces ∧ lookUp templates name = .ok template ∧
      c ∈ template := by
  obtain ⟨text, htext, hc⟩ := List.mem_flatten.mp hc
  obtain ⟨i, hi, rfl⟩ := List.getElem_of_mem htext
  have hlt : i < pieces.length := htexts.length_eq ▸ hi
  have hpiece := htexts.get hlt hi
  have hm : pieces[i] ∈ pieces := List.getElem_mem hlt
  rw [List.get_eq_getElem, List.get_eq_getElem] at hpiece
  generalize pieces[i] = piece at hpiece hm
  cases piece with
  | char d =>
    rw [← Except.ok.inj hpiece, List.mem_singleton] at hc
    exact .inl (hc ▸ hcuts.mem_of_char hm)
  | dollar =>
    rw [← Except.ok.inj hpiece, List.mem_singleton] at hc
    exact absurd hc hdollar
  | value name => exact .inr ⟨name, _, hm, hpiece, hc⟩

/-- What begins an expanded pattern begins the pattern, unless it has a parenthesis or a dollar
sign. -/
theorem prefix_of_prefix_texts (hcuts : Cuts cs pieces)
    (htexts : List.Forall₂ (fun piece text => piece.text templates = .ok text) pieces texts)
    (hopen : ∀ name template, lookUp templates name = .ok template → template.head? = some '(')
    (htail : ∀ c ∈ tail, c ≠ '(' ∧ c ≠ '$') (h : tail <+: texts.flatten) : tail <+: cs := by
  induction hcuts generalizing texts tail with
  | nil =>
    cases htexts
    exact h
  | char _ _ ih =>
    obtain _ | ⟨htext, htexts⟩ := htexts
    cases htext
    cases tail with
    | nil => exact List.nil_prefix
    | cons c tail =>
      obtain ⟨rfl, h⟩ := List.cons_prefix_cons.mp h
      exact List.cons_prefix_cons.mpr ⟨rfl, ih htexts (fun c hc => htail c (by simp [hc]))
        (by simpa using h)⟩
  | dollar _ ih =>
    obtain _ | ⟨htext, htexts⟩ := htexts
    cases htext
    cases tail with
    | nil => exact List.nil_prefix
    | cons c tail => exact absurd (List.cons_prefix_cons.mp h).1 (htail c (by simp)).2
  | braced _ _ _ | bare _ _ _ _ =>
    obtain _ | ⟨htext, htexts⟩ := htexts
    cases tail with
    | nil => exact List.nil_prefix
    | cons c tail =>
      obtain ⟨rest, hrest⟩ := List.head?_eq_some_iff.mp (hopen _ _ htext)
      rw [hrest] at h
      exact absurd (List.cons_prefix_cons.mp h).1 (htail c (by simp)).1

/-- A header is in a pattern or in the template of a value that has a placeholder in it. -/
def HeaderFrom (templates : Templates) (pieces : List Piece) (cs header : List Char) : Prop :=
  header <:+: cs ∨ ∃ name template, .value name ∈ pieces ∧
    lookUp templates name = .ok template ∧ header <:+: template

theorem HeaderFrom.cons {cs' : List Char} (h : HeaderFrom templates pieces cs header)
    (hcs : cs <:+: cs') (piece : Piece) : HeaderFrom templates (piece :: pieces) cs' header := by
  rcases h with h | ⟨name, template, hm, hvalue⟩
  · exact .inl (h.trans hcs)
  · exact .inr ⟨name, template, List.mem_cons_of_mem piece hm, hvalue⟩

/-- No header reaches over the end of a group. -/
theorem infix_of_group {inner rest : List Char} (hheader : Header name header)
    (h : header <:+: '(' :: (inner ++ [')']) ++ rest) :
    header <:+: '(' :: (inner ++ [')']) ∨ header <:+: rest := by
  have hsplit : ('(' :: (inner ++ [')'])) ++ rest = ('(' :: inner) ++ ')' :: rest := by simp
  rw [hsplit] at h
  refine (infix_append_cons h hheader.not_mem_closing.1).imp_left fun hinner => ?_
  exact hinner.trans (List.prefix_append ('(' :: inner) [')']).isInfix

/-- A header in an expanded pattern is in the pattern or in one of the templates. -/
theorem header_of_texts (hcuts : Cuts cs pieces)
    (htexts : List.Forall₂ (fun piece text => piece.text templates = .ok text) pieces texts)
    (hwrapped : ∀ name template, lookUp templates name = .ok template →
      ∃ inner, template = '(' :: (inner ++ [')']))
    (hheader : Header name header) (h : header <:+: texts.flatten) :
    HeaderFrom templates pieces cs header := by
  have hopen : ∀ name template, lookUp templates name = .ok template →
      template.head? = some '(' := by
    intro name template htemplate
    obtain ⟨inner, rfl⟩ := hwrapped name template htemplate
    rfl
  obtain ⟨tail, rfl, htail⟩ := hheader.exists_tail
  induction hcuts generalizing texts with
  | nil =>
    cases htexts
    cases List.eq_nil_of_infix_nil h
  | char _ hcuts ih =>
    obtain _ | ⟨htext, htexts⟩ := htexts
    cases htext
    rcases List.infix_cons_iff.mp h with hprefix | hinfix
    · obtain ⟨rfl, hprefix⟩ := List.cons_prefix_cons.mp hprefix
      have htail := prefix_of_prefix_texts hcuts htexts hopen
        (fun c hc => ⟨(htail c hc).1, (htail c hc).2.2.1⟩) (by simpa using hprefix)
      exact .inl (List.cons_prefix_cons.mpr ⟨rfl, htail⟩).isInfix
    · exact (ih htexts hinfix).cons (List.infix_cons List.infix_rfl) _
  | dollar hcuts ih =>
    obtain _ | ⟨htext, htexts⟩ := htexts
    cases htext
    rcases List.infix_cons_iff.mp h with hprefix | hinfix
    · exact absurd (List.cons_prefix_cons.mp hprefix).1 (by decide)
    · exact (ih htexts hinfix).cons (List.infix_cons (List.infix_cons List.infix_rfl)) _
  | @braced own rest _ _ _ ih =>
    obtain _ | ⟨htext, htexts⟩ := htexts
    obtain ⟨inner, rfl⟩ := hwrapped _ _ htext
    rcases infix_of_group hheader h with htemplate | hinfix
    · exact .inr ⟨_, _, List.mem_cons_self, htext, htemplate⟩
    · exact (ih htexts hinfix).cons ⟨'$' :: '\x7b' :: (own ++ ['\x7d']), [], by simp⟩ _
  | @bare own rest _ _ _ _ ih =>
    obtain _ | ⟨htext, htexts⟩ := htexts
    obtain ⟨inner, rfl⟩ := hwrapped _ _ htext
    rcases infix_of_group hheader h with htemplate | hinfix
    · exact .inr ⟨_, _, List.mem_cons_self, htext, htemplate⟩
    · exact (ih htexts hinfix).cons ⟨'$' :: own, [], by simp⟩ _

end

/-! ## Sources of groups -/

/-- Where a rule may have the group for a value from. -/
inductive Sourced (values : List Declaration) (pattern : List Char) (name : String) : Prop
  | placeholder : Mentions pattern name → Sourced values pattern name
  | written : Regex.HasHeader pattern name → Sourced values pattern name
  | nested {d : Declaration} : d ∈ values → Mentions pattern d.name →
      Regex.HasHeader d.regex.toList name → Sourced values pattern name

/-- A declaration as it is written, with parentheses around its regex. -/
structure Spelled (d : Declaration) (inner : List Char) : Prop where
  regex : d.regex.toList = '(' :: (inner ++ [')'])
  template : d.template.toList =
    '(' :: '?' :: 'P' :: '<' :: (d.name.toList ++ '>' :: (inner ++ [')']))

theorem parse_spelled {line : String} {d : Declaration} (h : Declaration.parse line = .ok d) :
    ∃ inner, Spelled d inner ∧ inner ⊆ line.toList := by
  obtain ⟨options, name, front, regex, hd, _, hline⟩ := parse_steps h
  have hsteps := ofParts_steps hd
  obtain ⟨before, hbefore⟩ := exists_of_isWrapped hsteps.wrapped
  have hbegins : startsWith regex ['('] = true := by
    have hwrapped := hsteps.wrapped
    simp only [isWrapped, Bool.and_eq_true] at hwrapped
    exact hwrapped.1.1
  obtain ⟨rest, hrest⟩ := startsWith_iff.mp hbegins
  cases before with
  | nil =>
    rw [hbefore] at hrest
    cases hrest
  | cons c inner =>
    obtain ⟨rfl, _⟩ := List.cons.inj (hrest.trans hbefore)
    refine ⟨inner, ⟨?_, ?_⟩, ?_⟩
    · rw [hsteps.regex, String.toList_ofList, hbefore]
      rfl
    · rw [hsteps.template, hsteps.name, Declaration.nameGroup, hbefore]
      simp
    · rw [hline, hbefore]
      intro c hc
      simp [hc]

theorem exists_of_lookUp {values : List Declaration} {name template : List Char}
    (h : lookUp (templatesOf values) name = .ok template) :
    ∃ d ∈ values, d.name.toList = name ∧ d.template.toList = template := by
  unfold lookUp at h
  split at h
  · rename_i found hfound
    cases h
    obtain ⟨d, hd, he⟩ := List.mem_map.mp (mem_of_lookup hfound)
    obtain ⟨hname, htemplate⟩ := Prod.mk.inj he
    exact ⟨d, hd, by rw [hname, String.toList_ofList], by rw [htemplate]⟩
  · cases h

/-- What is written in one line stays there. -/
theorem compile_oneLine {source : String} {t : Template} (h : Template.compile source = .ok t) :
    (∀ d ∈ t.values, ∃ inner, Spelled d inner ∧ '\n' ∉ inner) ∧
    ∀ state rules rule, (state, rules) ∈ t.states → rule ∈ rules →
      '\n' ∉ rule.pattern.toList ∧
      compilePattern (templatesOf t.values) rule.pattern.toList = .ok rule.regex := by
  refine ⟨?_, compile_forall_rules h fun raw number rule hraw hrule => ?_⟩
  · refine compile_values_forall h fun line d hline hd => ?_
    obtain ⟨inner, hspelled, hinner⟩ := parse_spelled hd
    exact ⟨inner, hspelled, fun hm => hline (hinner hm)⟩
  · obtain ⟨_, hregex, _, hpattern, _⟩ := parse_eq_ok_iff.mp hrule
    rw [String.toList_ofList] at hregex hpattern
    rw [hpattern, String.toList_ofList]
    have htrim : '\n' ∉ trim (trimEnd raw) := fun hm =>
      not_mem_of_mem_lines hraw ((trimEnd_isPrefix raw).subset (trim_subset _ hm))
    exact ⟨fun hm => htrim (writtenPattern_subset htrim hm), hregex⟩

/-- A header in an anchored expression is in the expression. -/
theorem header_of_anchored {name : String} {header expanded : List Char} (h : Header name header)
    (hi : header <:+: (anchored (String.ofList expanded)).toList) : header <:+: expanded := by
  obtain ⟨hclosing, hcolon⟩ := h.not_mem_closing
  have htext : (anchored (String.ofList expanded)).toList =
      ['^', '(', '?'] ++ ':' :: (expanded ++ ')' :: []) := by
    simp [anchored]
  rw [htext] at hi
  rcases infix_append_cons hi hcolon with hi | hi
  · exact absurd (hi.subset h.mem_bracket) (by decide)
  · rcases infix_append_cons hi hclosing with hi | hi
    · exact hi
    · exact absurd (hi.subset h.mem_bracket) List.not_mem_nil

/-- The expression of a rule has no named groups but those of its placeholders and those that are
written in its pattern or in the regex of a value that has a placeholder there. -/
theorem names_sourced {source : String} {t : Template} (ht : Template.compile source = .ok t)
    {state : String} {rules : List Rule} {rule : Rule} (hs : (state, rules) ∈ t.states)
    (hrule : rule ∈ rules) {name : String} (hname : name ∈ rule.regex.names) :
    Sourced t.values rule.pattern.toList name := by
  obtain ⟨hvalues, hrules⟩ := compile_oneLine ht
  obtain ⟨hline, hregex⟩ := hrules state rules rule hs hrule
  obtain ⟨expanded, hexpanded, htied⟩ := compilePattern_steps hregex
  obtain ⟨pieces, texts, hcuts, htexts, rfl⟩ := shows_of_expand hexpanded
  have htemplates : ∀ {own template}, .value own ∈ pieces →
      lookUp (templatesOf t.values) own = .ok template →
      ∃ d ∈ t.values, ∃ inner, Spelled d inner ∧ '\n' ∉ inner ∧ d.name.toList = own ∧
        d.template.toList = template ∧ ∀ c ∈ own, isNameChar c = true := by
    intro own template hm hlookup
    obtain ⟨d, hd, hown, htemplate⟩ := exists_of_lookUp hlookup
    obtain ⟨inner, hspelled, hinner⟩ := hvalues d hd
    exact ⟨d, hd, inner, hspelled, hinner, hown, htemplate,
      forall_isNameChar (hcuts.isIdentifier_of_mem hm)⟩
  have hdeclared : Regex.HasHeader (anchored (String.ofList texts.flatten)).toList name := by
    refine read_headers (fun hm => ?_) (Regex.read_of_compile htied) ?_
    · have hflat : '\n' ∈ texts.flatten := by simpa [anchored] using hm
      rcases mem_of_mem_texts hcuts htexts hflat (by decide) with hm | ⟨own, template, hp, hl, hm⟩
      · exact hline hm
      · obtain ⟨d, _, inner, hspelled, hinner, rfl, rfl, hchars⟩ := htemplates hp hl
        have hown : '\n' ∉ d.name.toList := fun hm => absurd (hchars _ hm) (by decide)
        rw [hspelled.template] at hm
        simp [hown, hinner] at hm
    · obtain ⟨group, hgroup, rfl⟩ := List.mem_filterMap.mp hname
      exact hgroup
  obtain ⟨header, hheader, hinfix⟩ := hdeclared
  have hwrapped : ∀ own template, lookUp (templatesOf t.values) own = .ok template →
      ∃ inner, template = '(' :: (inner ++ [')']) := by
    intro own template hlookup
    obtain ⟨d, hd, _, rfl⟩ := exists_of_lookUp hlookup
    obtain ⟨inner, hspelled, _⟩ := hvalues d hd
    exact ⟨'?' :: 'P' :: '<' :: (d.name.toList ++ '>' :: inner), by simp [hspelled.template]⟩
  rcases header_of_texts hcuts htexts hwrapped hheader (header_of_anchored hheader hinfix)
    with hi | ⟨own, template, hp, hl, hi⟩
  · exact .written ⟨header, hheader, hi⟩
  · obtain ⟨d, hd, inner, hspelled, _, rfl, rfl, hchars⟩ := htemplates hp hl
    rw [hspelled.template] at hi
    rcases hheader.infix_named (fun hm => absurd (hchars _ hm) (by decide))
      (fun hm => absurd (hchars _ hm) (by decide)) hi with he | hi
    · exact .placeholder ⟨pieces, hcuts, he ▸ hp⟩
    · refine .nested hd ⟨pieces, hcuts, hp⟩ ⟨header, hheader, ?_⟩
      rw [hspelled.regex]
      exact List.infix_cons hi

/-! ## Other values -/

/-- A run that has taken the captures of a rule, before the record operator is applied. -/
def Run.takeCaptures (t : Template) (rule : Rule) (line : List Char) (m : Regex.Match)
    (run : Run) : Run :=
  (rule.regex.namedGroups line m).foldl (Run.assignNamed t) run

theorem assign_column {column other : Nat} (h : other ≠ column) (d : Declaration)
    (captured : Option String) (run : Run) :
    (run.assign d other captured).rows.map (·[column]?) = run.rows.map (·[column]?) := by
  unfold Run.assign
  dsimp only
  split
  · exact map_getElem?_fillUp h _ _
  · rfl

section

variable {t : Template} {column : Nat} {d : Declaration}

theorem assignNamed_column (hd : t.values[column]? = some d) (run : Run)
    {group : String × Option String} (hne : group.1 ≠ d.name) :
    (run.assignNamed t group).rows.map (·[column]?) = run.rows.map (·[column]?) := by
  rcases assignNamed_cases t run group with he | ⟨other, d', hd', hname, he⟩
  · rw [he]
  · rw [he, assign_column (ne_of_name_ne hd hd' (hname ▸ hne))]

theorem foldl_assignNamed_column (hd : t.values[column]? = some d)
    {groups : List (String × Option String)} (hne : ∀ group ∈ groups, group.1 ≠ d.name)
    (run : Run) :
    (groups.foldl (Run.assignNamed t) run).rows.map (·[column]?) = run.rows.map (·[column]?) := by
  induction groups generalizing run with
  | nil => rfl
  | cons group rest ih =>
    obtain ⟨hgroup, hrest⟩ := List.forall_mem_cons.mp hne
    rw [List.foldl_cons, ih hrest, assignNamed_column hd run hgroup]

end

theorem takeCaptures_state (t : Template) (rule : Rule) (line : List Char) (m : Regex.Match)
    (run : Run) : (run.takeCaptures t rule line m).state = run.state := by
  rw [Run.takeCaptures, Run.foldl_assignNamed, Run.play_state]

/-- **The frame of a rule.** When a rule of a template matches a line, then before its record
operator is applied the run has changed for a value, in its cell or in its column of the rows, only
if the rule has a group for it: from its placeholder in the pattern, written in the pattern, or
written in the regex of a value that has a placeholder in the pattern. -/
theorem applyRule_frame {source : String} {t : Template} (ht : Template.compile source = .ok t)
    {state : String} {rules : List Rule} {rule : Rule} (hs : (state, rules) ∈ t.states)
    (hrule : rule ∈ rules) (line : List Char) (m : Regex.Match) (run : Run) :
    run.applyRule t rule line m =
      (run.takeCaptures t rule line m).applyRecordOp t rule.action.recordOp ∧
    (run.takeCaptures t rule line m).state = run.state ∧
    ∀ (column : Nat) (d : Declaration), t.values[column]? = some d →
      ((run.takeCaptures t rule line m).cells[column]? = run.cells[column]? ∧
        (run.takeCaptures t rule line m).rows.map (·[column]?) = run.rows.map (·[column]?)) ∨
      (d.name ∈ rule.regex.names ∧ Sourced t.values rule.pattern.toList d.name) := by
  refine ⟨rfl, takeCaptures_state t rule line m run, fun column d hd => ?_⟩
  by_cases hname : d.name ∈ rule.regex.names
  · exact .inr ⟨hname, names_sourced ht hs hrule hname⟩
  · have hne : ∀ group ∈ rule.regex.namedGroups line m, group.1 ≠ d.name := by
      intro group hgroup he
      rw [← Regex.map_namedGroups rule.regex line m] at hname
      exact hname (List.mem_map.mpr ⟨group, hgroup, he⟩)
    exact .inl ⟨foldl_assignNamed_other hd hne run, foldl_assignNamed_column hd hne run⟩

def linkText : String :=
  "Value Interface (\\S+)\nValue Fillup Mtu (\\d+)\n\nStart\n" ++
    "  ^${Interface} is up -> Record\n  ^MTU $Mtu\n"

/-- The name of an interface does not change what is known of its size. -/
theorem applyRule_frame_link :
    ∃ (t : Template) (rule : Rule) (m : Regex.Match), Template.compile linkText = .ok t ∧
      rule.pattern = "^${Interface} is up" ∧ rule.regex.find? "eth0 is up".toList = some m ∧
      ∀ run : Run, (run.takeCaptures t rule "eth0 is up".toList m).cells[1]? = run.cells[1]? ∧
        (run.takeCaptures t rule "eth0 is up".toList m).rows.map (·[1]?) =
          run.rows.map (·[1]?) := by
  obtain ⟨t, ht, d, hd, state, hs, rule, hrule, m, hm, hpattern, hnames⟩ :
      ∃ t, Template.compile linkText = .ok t ∧ ∃ d ∈ t.values[1]?, ∃ state ∈ t.states,
        ∃ rule ∈ state.2, ∃ m ∈ rule.regex.find? "eth0 is up".toList,
          rule.pattern = "^${Interface} is up" ∧ d.name ∉ rule.regex.names :=
    exists_compile (by decide +kernel)
  refine ⟨t, rule, m, ht, hpattern, hm, fun run => ?_⟩
  obtain ⟨_, _, hframe⟩ := applyRule_frame ht hs hrule "eth0 is up".toList m run
  exact (hframe 1 d hd).resolve_right fun h => hnames h.1

def foreignText : String :=
  "Value A ((?P<B>x)y)\nValue B (\\d+)\nValue C (\\w+)\n\nStart\n  ^${A}(?<C>z) -> Record\n"

set_option synthInstance.maxSize 2000 in
/-- A rule assigns two values that it does not name, and none of them is in a group that is opened
by `(?P<` in its pattern. -/
theorem applyRule_nestedGroup :
    ∃ (t : Template) (rule : Rule) (m : Regex.Match), Template.compile foreignText = .ok t ∧
      Fires t (Run.start t).state rule "xyz".toList m ∧ t.header = ["A", "B", "C"] ∧
      ¬ Mentions rule.pattern.toList "B" ∧ ¬ Mentions rule.pattern.toList "C" ∧
      contains "(?P<".toList rule.pattern.toList = false ∧
      (((Run.start t).takeCaptures t rule "xyz".toList m).cells[1]?).map (·.current) =
        some (some (.string "x")) ∧
      (((Run.start t).takeCaptures t rule "xyz".toList m).cells[2]?).map (·.current) =
        some (some (.string "z")) := by
  obtain ⟨t, ht, rules, hs, rule, hrule, m, hm, b, hb, c, hc, hheader, hpattern, hgroupB, hgroupC⟩ :
      ∃ t, Template.compile foreignText = .ok t ∧ ∃ rules ∈ t.states.lookup "Start",
        ∃ rule ∈ rules, ∃ m ∈ rule.regex.find? "xyz".toList,
        ∃ b ∈ t.values[1]?, ∃ c ∈ t.values[2]?,
          t.header = ["A", "B", "C"] ∧ rule.pattern = "^${A}(?<C>z)" ∧
          (b.name, some "x") ∈ rule.regex.namedGroups "xyz".toList m ∧
          (c.name, some "z") ∈ rule.regex.namedGroups "xyz".toList m :=
    exists_compile (by decide +kernel)
  have hcut : Cuts rule.pattern.toList
      (.char '^' :: .value ['A'] :: "(?<C>z)".toList.map Piece.char) := by
    have htext : rule.pattern.toList =
        '^' :: '$' :: '\x7b' :: (['A'] ++ '\x7d' :: "(?<C>z)".toList) := by
      rw [hpattern]
      decide +kernel
    rw [htext]
    exact .char (by decide) (.braced (by decide) (.chars (by decide +kernel)))
  have hnot : ∀ name : String, .value name.toList ∉ .char '^' :: .value ['A'] ::
      "(?<C>z)".toList.map Piece.char → ¬ Mentions rule.pattern.toList name := by
    rintro name hname ⟨pieces, hcuts, hm⟩
    exact hname (hcuts.unique hcut ▸ hm)
  have hcell : ∀ {column : Nat} {d : Declaration} {text : String}, t.values[column]? = some d →
      (d.name, some text) ∈ rule.regex.namedGroups "xyz".toList m →
      (((Run.start t).takeCaptures t rule "xyz".toList m).cells[column]?).map (·.current) =
        some (some (.string text)) := by
    intro column d text hd hgroup
    rw [Run.takeCaptures, foldl_assignNamed_cell (compile_closed ht).valueNames hd ?_ hgroup,
      start_cell hd, Option.map_some, Option.map_some,
      Cell.assign_eq (compile_options_nodup ht d (List.mem_of_getElem? hd))]
    · rfl
    · obtain ⟨written, hregex⟩ := compile_regex ht "Start" rules rule
        (mem_of_lookup hs) hrule
      rw [Regex.map_namedGroups]
      exact Regex.names_nodup hregex
  refine ⟨t, rule, m, ht, ⟨⟨rules, hs, hrule⟩, hm⟩, hheader, hnot "B" (by decide +kernel),
    hnot "C" (by decide +kernel), ?_, hcell hb hgroupB, hcell hc hgroupC⟩
  rw [hpattern]
  decide +kernel

end TemplateBench.TextFsm
