import TemplateBench.Proofs.TextFsm.Alike
import TemplateBench.Proofs.TextFsm.Cell

/-!
The order of the options of a value.

* `Interchangeable` options are the same ones but for `Key`, and agree on which of `Required` and
  `List` comes first.
* `Interchangeable.alike`: a value does the same with the ones as with the others.
* `parse_reordered`: so does a template in which options are replaced by such ones.
* `parse_requiredList`: with `Required` and `List` swapped it does not.
-/
namespace TemplateBench.TextFsm
open Text

structure Interchangeable (options options' : List ValueOption) : Prop where
  same : (options.filter (· != .key)).Perm (options'.filter (· != .key))
  order : [.required, .list].Sublist options ↔ [.required, .list].Sublist options'

/-! ## The value -/

theorem Interchangeable.mem_iff {options options' : List ValueOption}
    (h : Interchangeable options options') {option : ValueOption} (hne : option ≠ .key) :
    option ∈ options ↔ option ∈ options' := by
  simpa [List.mem_filter, hne] using h.same.mem_iff (a := option)

/-- A list is tested as a whole unless `Required` comes before `List`. -/
theorem list_mem_takeWhile_iff {options : List ValueOption} (hn : options.Nodup) :
    .list ∈ options.takeWhile (· != .required) ↔
      .list ∈ options ∧ ¬ [.required, .list].Sublist options := by
  induction options with
  | nil => simp
  | cons option rest ih =>
    obtain ⟨hnot, hrest⟩ := List.nodup_cons.mp hn
    cases option with
    | required => simp
    | list =>
      -- `List` comes first, and does not occur again behind a `Required`
      have hsub : ¬ [ValueOption.required, .list].Sublist rest := fun h => hnot (h.subset (by simp))
      simp [List.sublist_cons_iff, hsub]
    | filldown => simp [List.sublist_cons_iff, ih hrest]
    | fillup => simp [List.sublist_cons_iff, ih hrest]
    | key => simp [List.sublist_cons_iff, ih hrest]

/-- A value does the same with options that are interchangeable. -/
theorem Interchangeable.alike {d : Declaration} {options : List ValueOption}
    (h : Interchangeable d.options options) (hd : d.options.Nodup) (hn : options.Nodup) :
    d.Alike { d with options } := by
  have hhas : ∀ option, option ≠ .key → d.has option = Declaration.has { d with options } option := by
    intro option hne
    rw [Bool.eq_iff_iff, Declaration.has_iff, Declaration.has_iff]
    exact h.mem_iff hne
  have hmem : .list ∈ d.options ↔ .list ∈ options := h.mem_iff (by decide)
  have htests : d.testsItems = Declaration.testsItems { d with options } := by
    rw [Bool.eq_iff_iff]
    simp only [Declaration.testsItems, List.contains_iff_mem, list_mem_takeWhile_iff hd,
      list_mem_takeWhile_iff hn, hmem, h.order]
  have hfilldown := hhas .filldown (by decide)
  have hlist := hhas .list (by decide)
  refine ⟨rfl, rfl, ?_, ?_, ?_, ?_, hhas .fillup (by decide)⟩
  · funext captured cell
    rw [Cell.assign_eq hd, Cell.assign_eq hn, hfilldown, hlist]
    rfl
  · funext cell
    rw [Cell.clear_eq, Cell.clear_eq, hfilldown, hlist]
  · funext cell
    rw [Cell.clearAll_eq, Cell.clearAll_eq, hfilldown, hlist]
  · funext cell
    rw [Cell.save?_eq hd, Cell.save?_eq hn, Cell.refused, Cell.refused, Cell.saved, Cell.saved,
      htests, hlist, hhas .required (by decide)]

/-! ## The line of a value -/

theorem readOptions_keywords (options : List ValueOption) :
    ∀ seen, (seen ++ options).Nodup →
      readOptions seen (options.map (·.keyword.toList)) = .ok (seen ++ options) := by
  induction options with
  | nil =>
    intro seen _
    simp [readOptions]
  | cons option rest ih =>
    intro seen hn
    have hkeyword : ValueOption.ofKeyword? option.keyword = some option := by
      cases option <;> decide
    have hnew : option ∉ seen := fun hm =>
      (List.nodup_append.mp hn).2.2 option hm option (by simp) rfl
    have hrest := ih (seen ++ [option]) (by simpa using hn)
    simpa [readOptions, hkeyword, hnew] using hrest

/-- How options are written. -/
def optionText (options : List ValueOption) : List Char :=
  join [','] (options.map (·.keyword.toList))

theorem not_mem_keyword (option : ValueOption) :
    ' ' ∉ option.keyword.toList ∧ ',' ∉ option.keyword.toList := by
  cases option <;> decide

theorem not_mem_optionText (options : List ValueOption) : ' ' ∉ optionText options := by
  intro hm
  rcases mem_join hm with hm | ⟨piece, hpiece, hm⟩
  · exact absurd hm (by decide)
  · obtain ⟨option, _, rfl⟩ := List.mem_map.mp hpiece
    exact (not_mem_keyword option).1 hm

theorem readOptions_optionText {options : List ValueOption} (hne : options ≠ [])
    (hn : options.Nodup) : readOptions [] (splitOn ',' (optionText options)) = .ok options := by
  rw [optionText, splitOn_join (by simpa using hne)]
  · exact readOptions_keywords options [] hn
  · intro piece hm
    obtain ⟨option, _, rfl⟩ := List.mem_map.mp hm
    exact (not_mem_keyword option).2

/-- The line of a value with options, whose name and regex are given word by word. -/
def optionLine (options : List ValueOption) (name : List Char) (regex : List (List Char)) :
    List Char :=
  join [' '] ("Value".toList :: optionText options :: name :: regex)

theorem startsWith_optionLine (options : List ValueOption) (name : List Char)
    (regex : List (List Char)) :
    startsWith (optionLine options name regex) "Value ".toList = true := by
  rw [optionLine, join_cons _ _ (List.cons_ne_nil _ _), startsWith_iff]
  exact List.prefix_append _ _

/-- The first word of a line with options does not count. -/
theorem parse_optionWords {options : List ValueOption} (hne : options ≠ []) (hn : options.Nodup)
    {first name : List Char} {regex : List (List Char)}
    (hwords : ∀ word ∈ first :: name :: regex, ' ' ∉ word) (hname : ¬ startsWith name ['('] = true) :
    Declaration.parse (String.ofList (join [' '] (first :: optionText options :: name :: regex))) =
      Declaration.ofParts options (String.ofList name) (join [' '] regex) := by
  have hsplit : splitOn ' ' (join [' '] (first :: optionText options :: name :: regex)) =
      first :: optionText options :: name :: regex := by
    refine splitOn_join (List.cons_ne_nil _ _) fun word hm => ?_
    rcases List.mem_cons.mp hm with rfl | hm
    · exact hwords word List.mem_cons_self
    · rcases List.mem_cons.mp hm with rfl | hm
      · exact not_mem_optionText options
      · exact hwords word (List.mem_cons_of_mem first hm)
  rw [Declaration.parse, String.toList_ofList, hsplit]
  simp only [if_neg hname, readOptions_optionText hne hn, bind, Except.bind]

theorem parse_optionLine {options : List ValueOption} (hne : options ≠ []) (hn : options.Nodup)
    {name : List Char} {regex : List (List Char)} (hwords : ∀ word ∈ name :: regex, ' ' ∉ word)
    (hname : ¬ startsWith name ['('] = true) :
    Declaration.parse (String.ofList (optionLine options name regex)) =
      Declaration.ofParts options (String.ofList name) (join [' '] regex) :=
  parse_optionWords hne hn (List.forall_mem_cons.mpr ⟨by decide, hwords⟩) hname

/-- The options of a value can be written in any order. -/
theorem Declares.exists_perm {line : List Char} {d : Declaration} (h : Declares line d)
    {options : List ValueOption} (hp : options.Perm d.options) :
    ∃ line', Declares line' { d with options } := by
  by_cases hnil : options = []
  · subst hnil
    have hnone : d.options = [] := List.nil_perm.mp hp
    exact ⟨line, by rw [← hnone]; exact h⟩
  have hn : options.Nodup := hp.nodup_iff.mpr (parse_options_nodup _ d h.parses)
  have hparse := h.parses
  rw [Declaration.parse, String.toList_ofList] at hparse
  split at hparse
  · rename_i first second third rest hs
    split at hparse
    · rw [ofParts_options hparse] at hp
      exact absurd (List.perm_nil.mp hp) hnil
    · rename_i hname
      obtain ⟨written, _, hd⟩ := bind_eq_ok_iff.mp hparse
      have hwords : ∀ word ∈ third :: rest, ' ' ∉ word := fun word hm =>
        not_mem_of_mem_splitOn (hs ▸ List.mem_cons_of_mem _ (List.mem_cons_of_mem _ hm))
      have hparses : Declaration.parse (String.ofList (optionLine options third rest)) =
          .ok { d with options } := by
        rw [parse_optionLine hnil hn hwords hname, ofParts_withOptions written, hd]
        rfl
      have htrim := trimEnd_of_parse hparses
      exact ⟨_, by rw [htrim, startsWith_optionLine], by rw [htrim, hparses]⟩
  · cases hparse

/-! ## The template -/

/-- Lines that are the same, or declare one value with options that are interchangeable. -/
def Reordered (line line' : List Char) : Prop :=
  line = line' ∨ ∃ (d : Declaration) (options : List ValueOption), Declares line d ∧
    Declares line' { d with options } ∧ Interchangeable d.options options

theorem Reordered.lineAlike {line line' : List Char} (h : Reordered line line') :
    LineAlike line line' := by
  rcases h with rfl | ⟨d, options, hd, hd', ho⟩
  · exact .inl rfl
  · exact .inr ⟨d, _, hd, hd', ho.alike (parse_options_nodup _ _ hd.parses)
      (parse_options_nodup _ _ hd'.parses)⟩

/-- Every value that is read is declared by a line. -/
theorem exists_declares {ls : List NumberedLine} :
    ∀ {values : List Declaration} {read : List Declaration × List NumberedLine},
      readValues values ls = .ok read → ∀ d ∈ read.1, d ∈ values ∨ ∃ line ∈ ls, Declares line.2 d := by
  induction ls with
  | nil =>
    intro values read h d hd
    cases h
    exact .inl hd
  | cons line rest ih =>
    obtain ⟨k, raw⟩ := line
    intro values read h d hd
    rcases readValues_cases h with ⟨_, rfl⟩ | ⟨_, h⟩ | ⟨new, hnew, _, h⟩
    · exact .inl hd
    · rcases ih h d hd with hd | ⟨line, hm, hd⟩
      · exact .inl hd
      · exact .inr ⟨line, List.mem_cons_of_mem _ hm, hd⟩
    · rcases ih h d hd with hd | ⟨line, hm, hd⟩
      · rcases List.mem_append.mp hd with hd | hd
        · exact .inl hd
        · rw [List.mem_singleton.mp hd]
          exact .inr ⟨(k, raw), List.mem_cons_self, hnew⟩
      · exact .inr ⟨line, List.mem_cons_of_mem _ hm, hd⟩

/-- **The order of options.** Every value of a template is declared by a line, and its options can
be written in any order. If all lines are the same but for options that are interchangeable, the
other text compiles too, and its template gives the same result for every input. -/
theorem parse_reordered {text : String} {t : Template} (h : Template.compile text = .ok t) :
    (∀ d ∈ t.values, ∃ line ∈ lines text.toList, Declares line d ∧
      ∀ options : List ValueOption, options.Perm d.options →
        ∃ line', Declares line' { d with options }) ∧
    ∀ text' : String, List.Forall₂ Reordered (lines text.toList) (lines text'.toList) →
      ∃ t', Template.compile text' = .ok t' ∧ ∀ source, t'.parse source = t.parse source := by
  constructor
  · intro d hd
    obtain ⟨rest, hread⟩ := compile_readValues h
    rcases exists_declares hread d hd with hd | ⟨⟨k, line⟩, hm, hd⟩
    · cases hd
    · obtain ⟨⟨line', k'⟩, hline, he⟩ := List.mem_map.mp hm
      cases he
      exact ⟨line, List.fst_mem_of_mem_zipIdx hline, hd, fun options hp => hd.exists_perm hp⟩
  · intro text' hlines
    obtain ⟨t', ht', hstates, hvalues⟩ :=
      compile_alike (hlines.imp fun _ _ => Reordered.lineAlike) h
    exact ⟨t', ht', fun source => (parse_congr hvalues hstates.symm source).symm⟩

/-- A template with one value, whose options are given, and one rule that records it. -/
def orderedText (options : String) : String :=
  "Value " ++ options ++ " Port (\\S*)\n\nStart\n  ^port ${Port} -> Record\n"

/-- The value of such a template. -/
def orderedPort (options : List ValueOption) : Declaration :=
  ⟨"Port", options, "(\\S*)", "(?P<Port>\\S*)", none⟩

theorem parse_reordered_ports :
    ∃ t t', Template.compile (orderedText "Required,Filldown,List") = .ok t ∧
      Template.compile (orderedText "Key,Filldown,Required,List") = .ok t' ∧
      ∀ source, t'.parse source = t.parse source := by
  obtain ⟨t, ht⟩ : ∃ t, Template.compile (orderedText "Required,Filldown,List") = .ok t :=
    ⟨_, eq_ok_getD (by decide +kernel)⟩
  have hlines : lines (orderedText "Required,Filldown,List").toList =
      ["Value Required,Filldown,List Port (\\S*)".toList, [], "Start".toList,
        "  ^port ${Port} -> Record".toList] := by decide +kernel
  have hlines' : lines (orderedText "Key,Filldown,Required,List").toList =
      ["Value Key,Filldown,Required,List Port (\\S*)".toList, [], "Start".toList,
        "  ^port ${Port} -> Record".toList] := by decide +kernel
  have hfirst : Reordered "Value Required,Filldown,List Port (\\S*)".toList
      "Value Key,Filldown,Required,List Port (\\S*)".toList :=
    .inr ⟨orderedPort [.required, .filldown, .list], [.key, .filldown, .required, .list],
      ⟨by decide, eq_ok_of_toOption (by decide +kernel)⟩,
      ⟨by decide, eq_ok_of_toOption (by decide +kernel)⟩, by decide, by decide⟩
  obtain ⟨t', ht', hsame⟩ := (parse_reordered ht).2 (orderedText "Key,Filldown,Required,List") <| by
    rw [hlines, hlines']
    exact .cons hfirst (List.forall₂_same.mpr fun _ _ => .inl rfl)
  exact ⟨t, t', ht, ht', hsame⟩

/-- With `Required` before `List` the last capture is tested, and it is empty; with `List` before
`Required` the list is tested, and it has an item. -/
theorem parse_requiredList :
    ∃ t t', Template.compile (orderedText "Required,List") = .ok t ∧
      t.values = [orderedPort [.required, .list]] ∧
      Template.compile (orderedText "List,Required") = .ok t' ∧
      t'.values = [orderedPort [.list, .required]] ∧
      t.parse "port \n" = .ok ⟨["Port"], []⟩ ∧
      t'.parse "port \n" = .ok ⟨["Port"], [[.array [.string ""]]]⟩ := by
  have hc : ∃ t, Template.compile (orderedText "Required,List") = .ok t ∧
      t.values = [orderedPort [.required, .list]] ∧
      (t.trace "port \n").events = [.assign 0 (some ""), .record, .record] ∧
      (t.trace "port \n").result.isOk = true :=
    exists_compile (by decide +kernel)
  have hc' : ∃ t, Template.compile (orderedText "List,Required") = .ok t ∧
      t.values = [orderedPort [.list, .required]] ∧
      (t.trace "port \n").events = [.assign 0 (some ""), .record, .record] ∧
      (t.trace "port \n").result.isOk = true :=
    exists_compile (by decide +kernel)
  obtain ⟨⟨_, states⟩, h, rfl, he, hr⟩ := hc
  obtain ⟨⟨_, states'⟩, h', rfl, he', hr'⟩ := hc'
  refine ⟨_, _, h, rfl, h', rfl, ?_, ?_⟩
  · rw [parse_of_events he hr]
    rfl
  · rw [parse_of_events he' hr']
    rfl

end TemplateBench.TextFsm
