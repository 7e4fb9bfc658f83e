import TemplateBench.Proofs.TextFsm.OptionOrder

/-!
The lines that declare values.

* `declarationLine` writes one: its first word, the options if there are any, name and regex.
* `readOptions_eq_ok`: options are read from their keywords only.
* `Declaration.parse_eq_ok_iff`: a line is read as a declaration if it is one that is written so,
  and its parts make a declaration.
* `parse_declarationLine`: so each declaration is read as it is written.
-/
namespace TemplateBench.TextFsm
open Text

def declarationLine (first : String) (options : List ValueOption) (name regex : String) : String :=
  first ++ " " ++ (if options = [] then "" else String.ofList (optionText options) ++ " ") ++
    name ++ " " ++ regex

/-- A name that can be told from the regex of a value. -/
structure IsValueName (name : String) : Prop where
  notEmpty : name ≠ ""
  short : name.utf8ByteSize ≤ 48
  noSpace : ' ' ∉ name.toList
  noGroup : ¬ ['('] <+: name.toList

/-- A regex between parentheses, the last of which is not escaped. -/
structure IsWrapped (regex : String) : Prop where
  opens : ['('] <+: regex.toList
  closes : [')'] <:+ regex.toList
  unescaped : ¬ ['\\', ')'] <:+ regex.toList

theorem isWrapped_iff {regex : String} : isWrapped regex.toList = true ↔ IsWrapped regex := by
  simp only [isWrapped, Bool.and_eq_true, Bool.not_eq_true', ← Bool.not_eq_true, startsWith_iff,
    endsWith_iff]
  exact ⟨fun h => ⟨h.1.1, h.1.2, h.2⟩, fun h => ⟨⟨h.opens, h.closes⟩, h.unescaped⟩⟩

/-! ## Options -/

theorem keyword_of_ofKeyword? {keyword : String} {option : ValueOption}
    (h : ValueOption.ofKeyword? keyword = some option) : option.keyword = keyword := by
  simpa using List.find?_some h

/-- Options are read one keyword after the other. -/
theorem readOptions_eq_ok (tokens : List (List Char)) :
    ∀ {seen options : List ValueOption}, readOptions seen tokens = .ok options →
      ∃ new : List ValueOption, options = seen ++ new ∧ tokens = new.map (·.keyword.toList) := by
  induction tokens with
  | nil =>
    intro seen options h
    cases h
    exact ⟨[], by simp, rfl⟩
  | cons token rest ih =>
    intro seen options h
    simp only [readOptions] at h
    split at h
    · cases h
    · rename_i option hoption
      split at h
      · cases h
      · obtain ⟨new, rfl, rfl⟩ := ih h
        exact ⟨option :: new, by simp, by simp [keyword_of_ofKeyword? hoption]⟩

theorem readOptions_splitOn {cs : List Char} {options : List ValueOption}
    (h : readOptions [] (splitOn ',' cs) = .ok options) :
    options ≠ [] ∧ options.Nodup ∧ cs = optionText options := by
  obtain ⟨new, hnew, htokens⟩ := readOptions_eq_ok _ h
  rw [List.nil_append] at hnew
  subst hnew
  refine ⟨?_, readOptions_nodup _ [] _ List.nodup_nil h, ?_⟩
  · rintro rfl
    exact splitOn_ne_nil ',' cs htokens
  · rw [optionText, ← htokens, join_splitOn]

/-! ## Lines -/

theorem toList_declarationLine (first : String) (options : List ValueOption) (name regex : String) :
    (declarationLine first options name regex).toList =
      first.toList ++ [' '] ++ ((if options = [] then [] else optionText options ++ [' ']) ++
        (name.toList ++ [' '] ++ regex.toList)) := by
  unfold declarationLine
  split <;> simp

/-- A line is read word by word; the words of its regex are put together again. -/
theorem parse_line {first name regex : String} {options : List ValueOption}
    (hfirst : ' ' ∉ first.toList) (hn : options.Nodup) (hname : ' ' ∉ name.toList)
    (hgroup : options ≠ [] → ¬ ['('] <+: name.toList) (hopens : ['('] <+: regex.toList) :
    Declaration.parse (declarationLine first options name regex) =
      Declaration.ofParts options name regex.toList := by
  have hwords : ∀ word ∈ splitOn ' ' regex.toList, ' ' ∉ word := fun _ => not_mem_of_mem_splitOn
  have hregex : join [' '] (splitOn ' ' regex.toList) = regex.toList := join_splitOn ' ' _
  by_cases hne : options = []
  · subst hne
    have hline : (declarationLine first [] name regex).toList =
        first.toList ++ ' ' :: (name.toList ++ ' ' :: regex.toList) := by
      simp [toList_declarationLine]
    obtain ⟨third, rest, hs⟩ := List.exists_cons_of_ne_nil (splitOn_ne_nil ' ' regex.toList)
    have hthird : startsWith third ['('] = true := by
      obtain ⟨more, hmore⟩ := hopens
      rw [startsWith_iff]
      rw [← hmore, List.singleton_append, splitOn, if_neg (by decide)] at hs
      split at hs <;> (cases hs; simp)
    rw [Declaration.parse, hline, splitOn_append, splitOn_append, splitOn_of_not_mem hfirst,
      splitOn_of_not_mem hname, hs]
    simp only [List.cons_append, List.nil_append, hthird, if_true]
    rw [← hs, hregex, String.ofList_toList]
  · have hline : declarationLine first options name regex =
        String.ofList (join [' '] (first.toList :: optionText options :: name.toList ::
          splitOn ' ' regex.toList)) := by
      rw [← String.toList_inj, toList_declarationLine, if_neg hne, String.toList_ofList,
        join_cons _ _ (by simp), join_cons _ _ (by simp), join_cons _ _ (splitOn_ne_nil ' ' _),
        hregex]
    rw [hline, parse_optionWords hne hn, hregex, String.ofList_toList]
    · exact List.forall_mem_cons.mpr ⟨hfirst, List.forall_mem_cons.mpr ⟨hname, hwords⟩⟩
    · exact fun h => hgroup hne (startsWith_iff.mp h)

/-- A line is a declaration if it is written as one and its parts make one. -/
theorem Declaration.parse_eq_ok_iff {line : String} {d : Declaration} :
    Declaration.parse line = .ok d ↔
      ∃ first : String, ' ' ∉ first.toList ∧
        line = declarationLine first d.options d.name d.regex ∧ d.options.Nodup ∧
        ' ' ∉ d.name.toList ∧ (d.options ≠ [] → ¬ ['('] <+: d.name.toList) ∧
        Declaration.ofParts d.options d.name d.regex.toList = .ok d := by
  constructor
  · intro h
    have hjoin := join_splitOn ' ' line.toList
    have hspace : ∀ word ∈ splitOn ' ' line.toList, ' ' ∉ word := fun _ => not_mem_of_mem_splitOn
    unfold Declaration.parse at h
    split at h
    swap
    · cases h
    rename_i first second third rest hs
    rw [hs] at hjoin hspace
    have hfirst : ' ' ∉ (String.ofList first).toList := by
      simpa using hspace first (by simp)
    split at h
    · obtain ⟨_, _, _, compiled, nested, _, _, rfl⟩ := ofParts_eq_ok_iff.mp h
      refine ⟨String.ofList first, hfirst, ?_, List.nodup_nil, ?_, by simp, by simpa using h⟩
      · rw [← String.toList_inj, toList_declarationLine, ← hjoin, join_cons _ _ (by simp),
          join_cons _ _ (by simp)]
        simp
      · simpa using hspace second (by simp)
    · rename_i hthird
      obtain ⟨options, hoptions, hd⟩ := bind_eq_ok_iff.mp h
      obtain ⟨hne, hn, rfl⟩ := readOptions_splitOn hoptions
      obtain ⟨_, _, hwrapped, compiled, nested, _, _, rfl⟩ := ofParts_eq_ok_iff.mp hd
      have hrest : rest ≠ [] := by
        rintro rfl
        cases hwrapped
      refine ⟨String.ofList first, hfirst, ?_, hn, ?_, fun _ hprefix => hthird ?_, by simpa using hd⟩
      · rw [← String.toList_inj, toList_declarationLine, ← hjoin, join_cons _ _ (by simp),
          join_cons _ _ (by simp), join_cons _ _ hrest, if_neg hne]
        simp
      · simpa using hspace third (by simp)
      · rw [startsWith_iff]
        simpa using hprefix
  · rintro ⟨first, hfirst, hline, hn, hname, hgroup, h⟩
    have hwrapped := isWrapped_iff.mp (isWrapped_of_ofParts h)
    rw [hline, parse_line hfirst hn hname hgroup hwrapped.opens, h]

/-- The name of a value is a part of its line. -/
theorem Declaration.name_subset_of_parse {line : String} {d : Declaration}
    (h : Declaration.parse line = .ok d) : d.name.toList ⊆ line.toList := by
  obtain ⟨first, _, hline, _⟩ := Declaration.parse_eq_ok_iff.mp h
  rw [hline, toList_declarationLine]
  intro c hc
  simp [hc]

/-- **Declarations are read as they are written.** A line with distinct options, a name and a
regex in parentheses gives these options in order, this name and this regex, if the regex is an
expression on its own and tied to a start; and every line that is read is written so, but for its
first word. -/
theorem parse_declarationLine :
    (∀ (options : List ValueOption) (name regex : String) (compiled anchored : Regex),
      options.Nodup → IsValueName name → IsWrapped regex → Regex.compile regex = .ok compiled →
      Regex.compile ("^(?:" ++ regex ++ ")") = .ok anchored →
      ∃ nested, NestedOf regex compiled nested ∧
        Declaration.parse (declarationLine "Value" options name regex) =
          .ok ⟨name, options, regex,
            "(?P<" ++ name ++ ">" ++ String.ofList (regex.toList.drop 1), nested⟩) ∧
    ∀ (line : String) (d : Declaration), Declaration.parse line = .ok d →
      d.options.Nodup ∧ ∃ first : String, ' ' ∉ first.toList ∧
        line = declarationLine first d.options d.name d.regex := by
  constructor
  · intro options name regex compiled anchored hn hname hwrapped hcompiled hanchored
    have hnested : ∃ nested, NestedOf regex compiled nested := by
      by_cases hgroups : 1 < compiled.groups.length
      · exact ⟨some anchored, hgroups, hanchored⟩
      · exact ⟨none, Nat.not_lt.mp hgroups⟩
    obtain ⟨nested, hnested⟩ := hnested
    refine ⟨nested, hnested, ?_⟩
    rw [parse_line (by decide) hn hname.noSpace (fun _ => hname.noGroup) hwrapped.opens]
    refine ofParts_eq_ok_iff.mpr ⟨hname.notEmpty, hname.short, isWrapped_iff.mpr hwrapped,
      compiled, nested, ?_, ?_, ?_⟩
    · rwa [String.ofList_toList]
    · rwa [String.ofList_toList]
    · rw [String.ofList_toList]
      rfl
  · intro line d h
    obtain ⟨first, hfirst, hline, hn, _⟩ := Declaration.parse_eq_ok_iff.mp h
    exact ⟨hn, first, hfirst, hline⟩

/-- Two spaces stand in the regex, and two groups; the name is also the keyword of an option. -/
theorem parse_declarationLine_peer :
    (∃ compiled nested : Regex,
      Regex.compile "((?P<ip>\\S+)  AS(?P<asn>\\d+))" = .ok compiled ∧
      Declaration.parse "Value Required,List Key ((?P<ip>\\S+)  AS(?P<asn>\\d+))" =
        .ok ⟨"Key", [.required, .list], "((?P<ip>\\S+)  AS(?P<asn>\\d+))",
          "(?P<Key>(?P<ip>\\S+)  AS(?P<asn>\\d+))", some nested⟩) ∧
    ∃ d first, Declaration.parse " (a (b  c)" = .ok d ∧
      " (a (b  c)" = declarationLine first d.options d.name d.regex := by
  constructor
  · obtain ⟨compiled, hcompiled, hgroups⟩ :
        ∃ compiled, Regex.compile "((?P<ip>\\S+)  AS(?P<asn>\\d+))" = .ok compiled ∧
          compiled.groups.length = 3 := exists_ok (by decide +kernel)
    have hanchored : ∃ anchored,
        Regex.compile ("^(?:" ++ "((?P<ip>\\S+)  AS(?P<asn>\\d+))" ++ ")") = .ok anchored :=
      ⟨_, eq_ok_getD (by decide +kernel)⟩
    obtain ⟨anchored, hanchored⟩ := hanchored
    obtain ⟨nested, hnested, hparse⟩ := parse_declarationLine.1 [.required, .list] "Key"
      "((?P<ip>\\S+)  AS(?P<asn>\\d+))" compiled anchored (by decide)
      ⟨by decide, by decide, by decide, by decide⟩ ⟨by decide, by decide, by decide⟩
      hcompiled hanchored
    cases nested with
    | none => exact absurd hnested (by rw [NestedOf, hgroups]; decide)
    | some nested => exact ⟨compiled, nested, hcompiled, hparse⟩
  · obtain ⟨d, hd⟩ : ∃ d, Declaration.parse " (a (b  c)" = .ok d :=
      ⟨_, eq_ok_getD (by decide +kernel)⟩
    obtain ⟨_, first, _, hline⟩ := parse_declarationLine.2 _ d hd
    exact ⟨d, first, hd, hline⟩

end TemplateBench.TextFsm
