import TemplateBench.Proofs.TextFsm.Trailing

/-!
Rules with an arrow.

* `splitAction_of_lastArrow`: a rule is cut at its last arrow, wherever that stands.
* `parse_eq_ok_iff_of_lastArrow`: it is accepted if its pattern compiles and its action is read and
  allowed.
* `parse_grammar`: what such a rule is, whether it is accepted, and that every action can be
  written and read back in each of its spellings.
-/
namespace TemplateBench.TextFsm
open Text

/-! ## Arrows -/

/-- An arrow stands between two parts of a text: white space and `->`. -/
def Arrow (cs pattern text : List Char) : Prop :=
  ∃ b, isBlank b = true ∧ cs = pattern ++ b :: '-' :: '>' :: text

def HasArrow (cs : List Char) : Prop := ∃ pattern text, Arrow cs pattern text

structure LastArrow (cs pattern text : List Char) : Prop where
  between : Arrow cs pattern text
  last : ∀ pattern' text', Arrow cs pattern' text' → pattern'.length ≤ pattern.length

theorem arrow_cons_iff {c : Char} {rest pattern text : List Char} :
    Arrow (c :: rest) pattern text ↔
      (pattern = [] ∧ isBlank c = true ∧ rest = '-' :: '>' :: text) ∨
      ∃ tail, pattern = c :: tail ∧ Arrow rest tail text := by
  constructor
  · rintro ⟨b, hb, hcs⟩
    cases pattern with
    | nil =>
      cases hcs
      exact .inl ⟨rfl, hb, rfl⟩
    | cons d tail =>
      cases hcs
      exact .inr ⟨tail, rfl, b, hb, rfl⟩
  · rintro (⟨rfl, hc, rfl⟩ | ⟨tail, rfl, b, hb, rfl⟩)
    · exact ⟨c, hc, rfl⟩
    · exact ⟨b, hb, rfl⟩

theorem not_hasArrow_nil : ¬ HasArrow [] := by
  rintro ⟨pattern, text, b, _, he⟩
  exact absurd he.symm (by simp)

theorem hasArrow_cons_iff {c : Char} {rest : List Char} :
    HasArrow (c :: rest) ↔
      (isBlank c = true ∧ ∃ text, rest = '-' :: '>' :: text) ∨ HasArrow rest := by
  constructor
  · rintro ⟨pattern, text, h⟩
    rcases arrow_cons_iff.mp h with ⟨_, hc, hrest⟩ | ⟨tail, _, htail⟩
    · exact .inl ⟨hc, text, hrest⟩
    · exact .inr ⟨tail, text, htail⟩
  · rintro (⟨hc, text, hrest⟩ | ⟨tail, text, htail⟩)
    · exact ⟨[], text, arrow_cons_iff.mpr (.inl ⟨rfl, hc, hrest⟩)⟩
    · exact ⟨c :: tail, text, arrow_cons_iff.mpr (.inr ⟨tail, rfl, htail⟩)⟩

/-- The last arrow of a text is that of its tail, or the one in front of a tail that has none. -/
theorem lastArrow_cons_iff {c : Char} {rest pattern text : List Char} :
    LastArrow (c :: rest) pattern text ↔
      (pattern = [] ∧ isBlank c = true ∧ rest = '-' :: '>' :: text ∧ ¬ HasArrow rest) ∨
      ∃ tail, pattern = c :: tail ∧ LastArrow rest tail text := by
  constructor
  · rintro ⟨hbetween, hlast⟩
    have hbehind : ∀ tail' text', Arrow rest tail' text' → tail'.length + 1 ≤ pattern.length :=
      fun tail' text' h' =>
        hlast (c :: tail') text' (arrow_cons_iff.mpr (.inr ⟨tail', rfl, h'⟩))
    rcases arrow_cons_iff.mp hbetween with ⟨rfl, hc, hrest⟩ | ⟨tail, rfl, htail⟩
    · -- an arrow behind this one would be a later one
      refine .inl ⟨rfl, hc, hrest, ?_⟩
      rintro ⟨tail', text', h'⟩
      exact absurd (hbehind tail' text' h') (by simp)
    · exact .inr ⟨tail, rfl, htail, fun tail' text' h' =>
        Nat.le_of_succ_le_succ (hbehind tail' text' h')⟩
  · rintro (⟨rfl, hc, hrest, hnone⟩ | ⟨tail, rfl, htail⟩)
    · refine ⟨arrow_cons_iff.mpr (.inl ⟨rfl, hc, hrest⟩), fun pattern' text' h' => ?_⟩
      rcases arrow_cons_iff.mp h' with ⟨rfl, _⟩ | ⟨tail', _, h''⟩
      · exact Nat.le_refl _
      · exact absurd ⟨tail', text', h''⟩ hnone
    · refine ⟨arrow_cons_iff.mpr (.inr ⟨tail, rfl, htail.between⟩), fun pattern' text' h' => ?_⟩
      rcases arrow_cons_iff.mp h' with ⟨rfl, _⟩ | ⟨tail', rfl, h''⟩
      · exact Nat.zero_le _
      · exact Nat.succ_le_succ (htail.last tail' text' h'')

theorem exists_lastArrow {cs : List Char} (h : HasArrow cs) :
    ∃ pattern text, LastArrow cs pattern text := by
  induction cs with
  | nil => exact absurd h not_hasArrow_nil
  | cons c rest ih =>
    by_cases hrest : HasArrow rest
    · obtain ⟨tail, text, htail⟩ := ih hrest
      exact ⟨c :: tail, text, lastArrow_cons_iff.mpr (.inr ⟨tail, rfl, htail⟩)⟩
    · rcases hasArrow_cons_iff.mp h with ⟨hc, text, he⟩ | hrest'
      · exact ⟨[], text, lastArrow_cons_iff.mpr (.inl ⟨rfl, hc, he, hrest⟩)⟩
      · exact absurd hrest' hrest

/-- An arrow behind which there is none is the last one. -/
theorem lastArrow_append {b : Char} (hb : isBlank b = true) {text : List Char}
    (h : ¬ HasArrow text) (pattern : List Char) :
    LastArrow (pattern ++ b :: '-' :: '>' :: text) pattern text := by
  induction pattern with
  | nil =>
    have hdash : isBlank '-' = false := by decide
    have hhead : isBlank '>' = false := by decide
    refine lastArrow_cons_iff.mpr (.inl ⟨rfl, hb, rfl, ?_⟩)
    simpa [hasArrow_cons_iff, hdash, hhead] using h
  | cons c pattern ih => exact lastArrow_cons_iff.mpr (.inr ⟨pattern, rfl, ih⟩)

/-- No arrow arises where a text without a dash is put in front of another one. -/
theorem not_hasArrow_append {front cs : List Char} (hdash : '-' ∉ front)
    (hhead : cs.head? ≠ some '-') (h : ¬ HasArrow cs) : ¬ HasArrow (front ++ cs) := by
  induction front with
  | nil => exact h
  | cons c front ih =>
    rw [List.cons_append, hasArrow_cons_iff]
    rintro (⟨_, text, he⟩ | hrest)
    · cases front with
      | nil => exact hhead (by rw [show cs = _ from he]; rfl)
      | cons d front =>
        obtain ⟨rfl, _⟩ := List.cons.inj he
        exact hdash (by simp)
    · exact ih (fun hm => hdash (by simp [hm])) hrest

/-! ## Cutting at the last arrow -/

/-- On one line, an arrow at the beginning counts if there is none behind it. -/
theorem splitAction_cons {c : Char} {rest : List Char} (h : '\n' ∉ c :: rest) :
    splitAction (c :: rest) =
      match splitAction rest with
      | some (pattern, action) => some (c :: pattern, action)
      | none => if isBlank c then (dropFront ['-', '>'] rest).map ([], ·) else none := by
  have hc : c ≠ '\n' := fun e => h (by simp [e])
  rw [splitAction, if_neg hc]
  cases splitAction rest with
  | some parts => rfl
  | none =>
    dsimp only
    split
    · cases hd : dropFront ['-', '>'] rest with
      | none => rfl
      | some action =>
        have haction : '\n' ∉ action := by
          rw [dropFront_eq_some_iff] at hd
          intro hm
          exact h (by simp [hd, hm])
        simp [haction]
    · rfl

theorem splitAction_eq_none {cs : List Char} (hline : '\n' ∉ cs) (h : ¬ HasArrow cs) :
    splitAction cs = none := by
  induction cs with
  | nil => rfl
  | cons c rest ih =>
    rw [hasArrow_cons_iff, not_or] at h
    rw [splitAction_cons hline, ih (fun hm => hline (by simp [hm])) h.2]
    dsimp only
    split
    · rename_i hc
      cases hd : dropFront ['-', '>'] rest with
      | none => rfl
      | some action => exact absurd ⟨hc, action, dropFront_eq_some_iff.mp hd⟩ h.1
    · rfl

theorem splitAction_of_lastArrow {cs pattern text : List Char} (hline : '\n' ∉ cs)
    (h : LastArrow cs pattern text) : splitAction cs = some (pattern, text) := by
  induction cs generalizing pattern with
  | nil => exact absurd ⟨pattern, text, h.between⟩ not_hasArrow_nil
  | cons c rest ih =>
    have hrest : '\n' ∉ rest := fun hm => hline (by simp [hm])
    rw [splitAction_cons hline]
    rcases lastArrow_cons_iff.mp h with ⟨rfl, hc, he, hnone⟩ | ⟨tail, rfl, htail⟩
    · rw [splitAction_eq_none hrest hnone, he]
      simp [hc, dropFront]
    · rw [ih hrest htail]

theorem splitAction_subset {cs pattern text : List Char} (hline : '\n' ∉ cs)
    (h : splitAction cs = some (pattern, text)) : pattern ⊆ cs := by
  induction cs generalizing pattern with
  | nil => cases h
  | cons c rest ih =>
    rw [splitAction_cons hline] at h
    split at h
    · rename_i hrest
      cases h
      exact List.cons_subset_cons c (ih (fun hm => hline (by simp [hm])) hrest)
    · split at h
      · obtain ⟨_, _, he⟩ := Option.map_eq_some_iff.mp h
        cases he
        exact List.nil_subset _
      · cases h

theorem writtenPattern_subset {rule : List Char} (hline : '\n' ∉ rule) :
    writtenPattern rule ⊆ rule := by
  unfold writtenPattern
  cases h : splitAction rule with
  | none => exact List.Subset.refl _
  | some parts => exact splitAction_subset hline h

/-! ## Accepted rules -/

/-- A rule with an arrow is accepted if its pattern compiles and its action is read and allowed. -/
theorem parse_eq_ok_iff_of_lastArrow {templates : Templates} {line : String} {number : Nat}
    {rule : Rule} {pattern text : List Char} (hline : '\n' ∉ trim line.toList)
    (h : LastArrow (trim line.toList) pattern text) :
    Rule.parse templates line number = .ok rule ↔
      compilePattern templates pattern = .ok rule.regex ∧
      (Action.parse? text = some rule.action ∧ rule.action.Allowed) ∧
      rule.pattern = String.ofList pattern ∧ rule.lineNumber = number := by
  have hne : trim line.toList ≠ [] := by
    intro hnil
    exact not_hasArrow_nil ⟨pattern, text, hnil ▸ h.between⟩
  have hsplit := splitAction_of_lastArrow hline h
  rw [parse_eq_ok_iff, writtenPattern, hsplit, readAction_eq_ok_iff]
  exact and_iff_right hne

/-! ## Written actions -/

/-- An action that can be written into a rule: a state has a usable name, and a message has no
arrow of its own. -/
structure Action.Writable (a : Action) : Prop where
  resume : a.lineOp = .resume → a.target = none
  state : ∀ target, a.target = some target → a.lineOp = .next →
    isUsableStateName target.toList = true
  message : ∀ target, a.target = some target → a.lineOp = .reject → ¬ HasArrow target.toList

theorem Action.Writable.allowed {a : Action} (h : a.Writable) : a.Allowed := by
  refine ⟨h.resume, fun target ht hne => ?_⟩
  cases hop : a.lineOp with
  | next => exact isStateName_of_isUsableStateName (h.state target ht hop)
  | resume =>
    rw [h.resume hop] at ht
    cases ht
  | reject => exact absurd hop hne

theorem not_mem_of_isWord {cs : List Char} (h : ∀ c ∈ cs, isWord c = true) : '-' ∉ cs := by
  intro hm
  exact absurd (h '-' hm) (by decide)

theorem not_hasArrow_of_isStateName {cs : List Char} (h : isStateName cs = true) :
    ¬ HasArrow cs := by
  have happend := @not_hasArrow_append cs []
    (not_mem_of_isWord (isStateName_iff.mp h).2) nofun not_hasArrow_nil
  rwa [List.append_nil] at happend

theorem Action.Writable.not_hasArrow {a : Action} (h : a.Writable) {target : String}
    (ht : a.target = some target) : ¬ HasArrow target.toList := by
  by_cases hop : a.lineOp = .reject
  · exact h.message target ht hop
  · exact not_hasArrow_of_isStateName (h.allowed.name target ht hop)

theorem IsBlankRun.not_mem {gap : List Char} (h : IsBlankRun gap) : '-' ∉ gap := by
  intro hm
  exact absurd (h.2 '-' hm) (by decide)

/-- Operators are written in words and dots. -/
theorem SpellsOperators.isWord_or_dot {ops : List Char} {l : LineOp} {r : RecordOp}
    (h : SpellsOperators ops l r) : ∀ c ∈ ops, isWord c = true ∨ c = '.' := by
  intro c hc
  cases h with
  | line => exact .inl (l.isWord_keyword c hc)
  | both =>
    simp only [List.mem_append, List.mem_cons] at hc
    rcases hc with hc | rfl | hc
    · exact .inl (l.isWord_keyword c hc)
    · exact .inr rfl
    · exact .inl (r.isWord_keyword c hc)
  | record => exact .inl (r.isWord_keyword c hc)

theorem SpellsOperators.not_mem {ops : List Char} {l : LineOp} {r : RecordOp}
    (h : SpellsOperators ops l r) : '-' ∉ ops := by
  intro hm
  rcases h.isWord_or_dot '-' hm with hword | hdot
  · exact absurd hword (by decide)
  · exact absurd hdot (by decide)

theorem SpellsOperators.trimEnd_eq {ops : List Char} {l : LineOp} {r : RecordOp}
    (h : SpellsOperators ops l r) : trimEnd ops = ops := by
  refine trimEnd_eq_self fun c hc => ?_
  rcases h.isWord_or_dot c hc with hword | rfl
  · exact isBlank_of_isWord hword
  · decide

/-- No state may be called like operators. -/
theorem SpellsOperators.not_isUsableStateName {ops : List Char} {l : LineOp} {r : RecordOp}
    (h : SpellsOperators ops l r) : isUsableStateName ops = false := by
  cases h with
  | line => cases l <;> decide
  | both =>
    rw [Bool.eq_false_iff]
    intro hname
    exact absurd ((isWord_of_isUsableStateName hname).2 '.' (by simp)) (by decide)
  | record => cases r <;> decide

theorem IsTarget.trimEnd_eq {cs : List Char} (h : IsTarget cs) : trimEnd cs = cs := by
  cases h with
  | word _ hwords => exact trimEnd_eq_self fun c hc => isBlank_of_isWord (hwords c hc)
  | @quoted text => exact trimEnd_append_of_not_isBlank (by decide) ('"' :: text)

theorem SpellsTarget.trimEnd_eq {cs : List Char} {target : Option String}
    (h : SpellsTarget cs target) : trimEnd cs = cs := by
  cases h with
  | nothing => rfl
  | @target gap target _ ht =>
    obtain ⟨c, rest, hcons, _⟩ := ht.exists_cons
    exact trimEnd_append_eq gap (by simp [hcons]) ht.trimEnd_eq

theorem IsTarget.head?_ne {cs : List Char} (h : IsTarget cs) : cs.head? ≠ some '-' := by
  intro hhead
  have hm := List.mem_of_head? hhead
  cases h with
  | word _ hwords => exact not_mem_of_isWord hwords hm
  | quoted => cases hhead

theorem SpellsTarget.head?_ne {cs : List Char} {target : Option String}
    (h : SpellsTarget cs target) : cs.head? ≠ some '-' := by
  cases h with
  | nothing => nofun
  | target hgap _ =>
    obtain ⟨b, gap, rfl⟩ := List.exists_cons_of_ne_nil hgap.1
    intro hhead
    cases hhead
    exact hgap.not_mem (by simp)

theorem SpellsTarget.not_hasArrow {cs : List Char} {target : Option String}
    (h : SpellsTarget cs target) (ht : ∀ t, target = some t → ¬ HasArrow t.toList) :
    ¬ HasArrow cs := by
  cases h with
  | nothing => exact not_hasArrow_nil
  | target hgap htarget => exact not_hasArrow_append hgap.not_mem htarget.head?_ne (ht _ rfl)

/-- An action has no arrow but in its target. -/
theorem Spells.not_hasArrow {text : List Char} {a : Action} (h : Spells text a)
    (ha : a.Writable) : ¬ HasArrow text := by
  cases h with
  | operators hgap hops htarget =>
    refine not_hasArrow_append ?_ htarget.head?_ne
      (htarget.not_hasArrow fun _ => ha.not_hasArrow)
    rw [List.mem_append, not_or]
    exact ⟨hgap.not_mem, hops.not_mem⟩
  | bare htarget => exact htarget.not_hasArrow fun _ => ha.not_hasArrow

/-- An action does not end in white space. -/
theorem Spells.trimEnd_eq {text : List Char} {a : Action} (h : Spells text a) :
    trimEnd text = text := by
  cases h with
  | @operators gap ops rest _ _ hops htarget =>
    obtain ⟨c, word, hcons, _⟩ := hops.exists_cons
    cases rest with
    | nil =>
      rw [List.append_nil]
      exact trimEnd_append_eq gap (by simp [hcons]) hops.trimEnd_eq
    | cons d rest => exact trimEnd_append_eq _ (List.cons_ne_nil d rest) htarget.trimEnd_eq
  | bare htarget => exact htarget.trimEnd_eq

/-- What is written for an action that can be written is read as this action. -/
theorem Spells.parse?_eq {text : List Char} {a : Action} (h : Spells text a) (ha : a.Writable) :
    Action.parse? text = some a := by
  rw [TextFsm.parse?_eq]
  rcases spells_iff.mp h with hread | ⟨target, htarget, rfl⟩
  · rw [hread]
  · cases hread : readGapOperators text with
    | none => simp [htarget]
    | some b =>
      -- operators would win here, but no state may be called like them
      obtain ⟨_, word, rfl, hops⟩ := target_eq_none_of_readTarget hread htarget
      have husable := ha.state word rfl rfl
      rw [hops.not_isUsableStateName] at husable
      cases husable

/-! ## Rules -/

/-- A line on which a pattern and the text of an action stand on both sides of an arrow. The pattern
begins with no white space, for that would belong to the line. -/
inductive WritesRule : List Char → List Char → List Char → Prop
  | mk {front pattern text back : List Char} {c b : Char} :
      (∀ d ∈ front, isBlank d = true) → (∀ d ∈ back, isBlank d = true) →
      isBlank c = false → isBlank b = true →
      WritesRule (front ++ c :: pattern ++ b :: '-' :: '>' :: text ++ back) (c :: pattern) text

theorem WritesRule.arrow {line pattern text : List Char} (h : WritesRule line pattern text)
    (htext : trimEnd text = text) : Arrow (trim line) pattern text := by
  cases h with
  | @mk front pattern text back c b hfront hback hc hb =>
    refine ⟨b, hb, ?_⟩
    have hhead : isBlank '>' = false := by decide
    have hend : trimEnd ('>' :: text) = '>' :: text := by
      rw [trimEnd_cons_of_not_isBlank hhead, htext]
    have hkept : trimEnd (c :: pattern ++ b :: '-' :: '>' :: text) =
        c :: pattern ++ b :: '-' :: '>' :: text := by
      have happend := trimEnd_append_eq (c :: pattern ++ [b, '-']) (List.cons_ne_nil '>' text) hend
      simpa using happend
    have hstart : trimStart (front ++ c :: pattern ++ b :: '-' :: '>' :: text ++ back) =
        c :: pattern ++ b :: '-' :: '>' :: text ++ back := by
      rw [List.append_assoc, List.append_assoc, List.cons_append, trimStart_gap hfront hc]
      simp
    rw [trim, hstart, trimEnd_append_of_trimEnd_eq_nil (trimEnd_eq_nil hback), hkept]

/-- What is written for an action is read back. -/
theorem parse_writesRule {templates : Templates} {line : String} {number : Nat} {regex : Regex}
    {a : Action} {pattern text : List Char} (h : WritesRule line.toList pattern text)
    (hline : '\n' ∉ trim line.toList) (hregex : compilePattern templates pattern = .ok regex)
    (ha : a.Writable) (htext : Spells text a) :
    Rule.parse templates line number = .ok ⟨String.ofList pattern, regex, a, number⟩ := by
  obtain ⟨b, hb, htrim⟩ := h.arrow htext.trimEnd_eq
  have hlast : LastArrow (trim line.toList) pattern text := by
    rw [htrim]
    exact lastArrow_append hb (htext.not_hasArrow ha) pattern
  rw [parse_eq_ok_iff_of_lastArrow hline hlast]
  exact ⟨hregex, ⟨htext.parse?_eq ha, ha.allowed⟩, rfl, rfl⟩

/-- **Rules with an arrow.** A rule with an arrow is cut at the last one, and its pattern is what
stands before it. If the pattern compiles, the rule is accepted if and only if the text behind the
arrow spells an action whose target is allowed; its action is one that is spelled there, and the one
without a target where a text spells both operators and a target. An action that can be written is
read back in each of its spellings. -/
theorem parse_grammar (templates : Templates) (number : Nat) :
    (∀ line : String, '\n' ∉ trim line.toList → HasArrow (trim line.toList) →
      ∃ pattern text, LastArrow (trim line.toList) pattern text ∧
        splitAction (trim line.toList) = some (pattern, text) ∧
        (∀ rule, Rule.parse templates line number = .ok rule →
          rule.pattern = String.ofList pattern ∧ Spells text rule.action ∧
          ∀ a : Action, a.target = none → Spells text a → rule.action = a) ∧
        ∀ regex, compilePattern templates pattern = .ok regex →
          ((∃ rule, Rule.parse templates line number = .ok rule) ↔
            ∃ a, Spells text a ∧ a.Allowed)) ∧
    ∀ (line : String) (pattern text : List Char) (regex : Regex) (a : Action),
      WritesRule line.toList pattern text → '\n' ∉ trim line.toList →
      compilePattern templates pattern = .ok regex → a.Writable → Spells text a →
      Rule.parse templates line number = .ok ⟨String.ofList pattern, regex, a, number⟩ := by
  refine ⟨fun line hline harrow => ?_, fun line pattern text regex a hwritten hline hregex ha htext =>
    parse_writesRule hwritten hline hregex ha htext⟩
  obtain ⟨pattern, text, hlast⟩ := exists_lastArrow harrow
  refine ⟨pattern, text, hlast, splitAction_of_lastArrow hline hlast, fun rule hrule => ?_,
    fun regex hregex => ⟨?_, ?_⟩⟩
  · obtain ⟨_, ⟨haction, _⟩, hpattern, _⟩ :=
      (parse_eq_ok_iff_of_lastArrow hline hlast).mp hrule
    exact ⟨hpattern, parse?_eq_some_iff.mp haction⟩
  · rintro ⟨rule, hrule⟩
    obtain ⟨_, ⟨haction, hallowed⟩, _⟩ := (parse_eq_ok_iff_of_lastArrow hline hlast).mp hrule
    exact ⟨rule.action, (parse?_eq_some_iff.mp haction).1, hallowed⟩
  · rintro ⟨a, htext, hallowed⟩
    obtain ⟨b, hread, hb⟩ := htext.exists_parse?
    have hb' : b.Allowed := by
      rcases hb with rfl | hnone
      · exact hallowed
      · exact Action.allowed_of_target_eq_none hnone
    exact ⟨⟨String.ofList pattern, regex, b, number⟩,
      (parse_eq_ok_iff_of_lastArrow hline hlast).mpr ⟨hregex, ⟨hread, hb'⟩, rfl, rfl⟩⟩

/-- An arrow in a message is taken for the one of the rule, and so the rule is rejected; a rule that
goes to a state is read as it is written. -/
theorem parse_grammar_ports :
    (¬ ∃ rule, Rule.parse [] "  ^down -> Error \"up -> down\"" 2 = .ok rule) ∧
    ∃ regex, compilePattern [("Port", "(?P<Port>\\d+)")] "^port ${Port}".toList = .ok regex ∧
      Rule.parse [("Port", "(?P<Port>\\d+)")] "  ^port ${Port} -> Record Ports" 3 =
        .ok ⟨"^port ${Port}", regex, ⟨.next, .record, some "Ports"⟩, 3⟩ := by
  constructor
  · obtain ⟨pattern, text, _, hsplit, _, haccepted⟩ :=
      (parse_grammar [] 2).1 "  ^down -> Error \"up -> down\"" (by decide)
        ⟨"^down".toList, " Error \"up -> down\"".toList, ' ', by decide, by decide⟩
    obtain ⟨rfl, rfl⟩ : "^down -> Error \"up".toList = pattern ∧ " down\"".toList = text := by
      have hcut : splitAction (trim "  ^down -> Error \"up -> down\"".toList) =
          some ("^down -> Error \"up".toList, " down\"".toList) := by decide
      rw [hsplit] at hcut
      cases hcut
      exact ⟨rfl, rfl⟩
    obtain ⟨regex, hregex⟩ : ∃ regex, compilePattern [] "^down -> Error \"up".toList = .ok regex :=
      ⟨_, eq_ok_getD (by decide +kernel)⟩
    rw [haccepted regex hregex]
    rintro ⟨a, htext, _⟩
    obtain ⟨b, hread, _⟩ := htext.exists_parse?
    have hnone : Action.parse? " down\"".toList = none := by decide
    rw [hnone] at hread
    cases hread
  · obtain ⟨regex, hregex⟩ : ∃ regex,
        compilePattern [("Port", "(?P<Port>\\d+)")] "^port ${Port}".toList = .ok regex :=
      ⟨_, eq_ok_getD (by decide +kernel)⟩
    have hwritten : WritesRule "  ^port ${Port} -> Record Ports".toList "^port ${Port}".toList
        " Record Ports".toList :=
      @WritesRule.mk "  ".toList "port ${Port}".toList " Record Ports".toList [] '^' ' '
        (List.all_eq_true.mp (by decide)) nofun (by decide) (by decide)
    have hspelled : Spells " Record Ports".toList ⟨.next, .record, some "Ports"⟩ :=
      (parse?_eq_some_iff.mp (by decide)).1
    have hwritable : Action.Writable ⟨.next, .record, some "Ports"⟩ := by
      refine ⟨nofun, fun target ht _ => ?_, nofun⟩
      cases ht
      decide
    exact ⟨regex, hregex, (parse_grammar _ 3).2 _ _ _ regex _ hwritten (by decide) hregex
      hwritable hspelled⟩

end TemplateBench.TextFsm
