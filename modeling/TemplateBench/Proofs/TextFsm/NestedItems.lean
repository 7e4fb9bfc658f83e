import TemplateBench.Proofs.Regex.Contained
import TemplateBench.Proofs.Regex.Numbering
import TemplateBench.Proofs.TextFsm.Anchored
import TemplateBench.Proofs.TextFsm.Cell
import TemplateBench.Proofs.TextFsm.Closed
import TemplateBench.Proofs.TextFsm.Trace

/-!
What a list of nested captures gets from a rule that matches.

* `listItem_nested`: an item is what the expression of the value captures in the text of the value
  alone, matched a second time.
* `Regex.Embeds.captured?_eq`: that is what the rule itself has captured if it holds the expression
  as it stands and the second match takes all of the text.
* `foldl_assignNamed_items`: the captures of a rule add one item to the list of a value.
* `nested_item`: so much for every template, rule and line.
* `nested_item_shorter`: a second match that takes less than the text captures something else.
-/
namespace TemplateBench

open Regex (groupText)

namespace Regex

/-! ## Expressions within others -/

def Pattern.isGroup : Pattern → Bool
  | .group _ _ => true
  | _ => false

theorem Pattern.exists_of_isGroup {p : Pattern} (h : p.isGroup = true) :
    ∃ g q, p = .group g q := by
  cases p with
  | group g q => exact ⟨g, q, rfl⟩
  | empty | chars | look | seq | alt | times => cases h

/-- A regex that holds another one as it stands, its outer group under a name, at one place which is
inside of no repetition; `front` are the groups before it and `more` those in it. -/
structure Embeds (outer inner : Regex) (name : String) (front more : List (Option String)) :
    Prop where
  pattern : outer.pattern.Holds (inner.pattern.shift front.length)
  groups : (front ++ some name :: more) <+: outer.groups
  inside : inner.groups = none :: more

instance (outer inner : Regex) (name : String) (front more : List (Option String)) :
    Decidable (outer.Embeds inner name front more) :=
  decidable_of_iff (outer.pattern.Holds (inner.pattern.shift front.length) ∧
      (front ++ some name :: more) <+: outer.groups ∧ inner.groups = none :: more)
    ⟨fun h => ⟨h.1, h.2.1, h.2.2⟩, fun h => ⟨h.pattern, h.groups, h.inside⟩⟩

/-- The one group around a regex is numbered first. -/
theorem numbers_of_group {inner : Regex} {source : String} (hc : Regex.compile source = .ok inner)
    {g : Nat} {q : Pattern} (hg : inner.pattern = .group g q) :
    g = 1 ∧ g ∉ q.numbers ∧
      ∀ i, i < inner.groups.length → i + 1 ∈ (Pattern.group g q).numbers := by
  have hnumbers := (read_numbered (read_of_compile hc)).1
  dsimp only at hnumbers
  rw [hg] at hnumbers
  have hnodup : (Pattern.group g q).numbers.Nodup := hnumbers ▸ List.nodup_range'
  refine ⟨?_, (List.nodup_cons.mp hnodup).1, fun i hi => ?_⟩
  · cases hlength : inner.groups.length with
    | zero => simp [hlength, Pattern.numbers] at hnumbers
    | succ n =>
      rw [hlength, List.range'_succ] at hnumbers
      exact (List.cons.inj hnumbers).1
  · rw [hnumbers, List.mem_range'_1]
    omega

theorem Embeds.getElem? {outer inner : Regex} {name : String} {front more : List (Option String)}
    (h : outer.Embeds inner name front more) {i : Nat} {n : String}
    (hi : (some name :: more)[i]? = some (some n)) :
    outer.groups[front.length + i]? = some (some n) := by
  obtain ⟨back, hback⟩ := h.groups
  obtain ⟨hlt, _⟩ := List.getElem?_eq_some_iff.mp hi
  rw [← hback, List.getElem?_append_left (by rw [List.length_append]; omega),
    List.getElem?_append_right (Nat.le_add_right _ _), Nat.add_sub_cancel_left, hi]

/-- What an expression in another one captures is matched by it alone, and where that match takes
all of it, both capture the same for the names in it. -/
theorem Embeds.captured?_eq {outer inner : Regex} {source source' name : String}
    {front more : List (Option String)} (h : outer.Embeds inner name front more)
    (ho : Regex.compile source = .ok outer) (hi : Regex.compile source' = .ok inner)
    (hgroup : inner.pattern.isGroup = true) (hplain : inner.pattern.plain = true)
    {text : List Char} {m : Match} (hm : outer.find? text = some m) {captured : String}
    (hcaptured : (name, some captured) ∈ outer.namedGroups text m) :
    ∃ own, matchAt inner.pattern 0 none captured.toList = some own ∧
      (own.stop = captured.toList.length → ∀ n ∈ inner.names,
        inner.captured? captured.toList own n = outer.captured? text m n) := by
  obtain ⟨g, q, hg⟩ := Pattern.exists_of_isGroup hgroup
  obtain ⟨rfl, hnot, hnumbers⟩ := numbers_of_group hi hg
  obtain ⟨i, hm⟩ := matchAt_of_findFrom text List.drop_zero hm
  have hpattern := h.pattern
  rw [hg] at hpattern hplain ⊢
  have hnamed : ∀ {i n}, (some name :: more)[i]? = some (some n) →
      outer.captured? text m n = groupText text m (i + 1 + front.length) := by
    intro i n hi
    refine captured?_of_mem (names_nodup ho) (mem_namedGroups_iff.mpr ⟨_, h.getElem? hi, ?_⟩)
    rw [Nat.add_comm, Nat.add_assoc]
  have hwhole : groupText text m (1 + front.length) = some captured := by
    rw [← captured?_of_mem (names_nodup ho) hcaptured]
    exact (hnamed (i := 0) rfl).symm
  have hplain : q.plain = true := hplain
  obtain ⟨own, hown, hsame⟩ := groupText_contained hm hplain hnot hpattern hwhole
  refine ⟨own, hown, fun hstop n hn => ?_⟩
  obtain ⟨group, hgroup, rfl⟩ := List.mem_filterMap.mp hn
  obtain ⟨i, hi'⟩ := List.getElem?_of_mem hgroup
  have hlt : i < inner.groups.length := (List.getElem?_eq_some_iff.mp hi').1
  rw [captured?_of_mem (names_nodup hi) (mem_namedGroups_iff.mpr ⟨i, hi', rfl⟩),
    ← hsame hstop _ (hnumbers i hlt)]
  rw [h.inside] at hi'
  cases i with
  | zero => cases hi'
  | succ i => exact (hnamed (i := i + 1) hi').symm

end Regex

end TemplateBench

namespace TemplateBench.TextFsm
open Regex (read_of_compile)

/-! ## Items -/

/-- An object of the captures for some names, or the captured text if there are no names. -/
def nestedObject (names : List String) (text : String) (captured : String → Option String) : Json :=
  if names = [] then .string text
  else Json.ofMembers (names.map fun name => (name, Json.ofOption .string (captured name)))

/-- The item for a capture, told from its text alone: the expression of the value is matched again
at the start of this text, and without a match the text itself is the item. -/
def itemOf (nested : Regex) (text : String) : Json :=
  match nested.find? text.toList with
  | none => .string text
  | some own => nestedObject nested.names text (nested.captured? text.toList own)

theorem listItem_nested {d : Declaration} {nested : Regex} (hn : d.nested = some nested)
    (hnames : nested.names.Nodup) (text : String) :
    listItem d (some text) = itemOf nested text := by
  simp only [listItem, hn, Option.bind_some, nestedItem?, itemOf, nestedObject]
  cases nested.find? text.toList with
  | none => rfl
  | some own =>
    simp only [Regex.namedGroups_eq hnames]
    cases nested.names with
    | nil => rfl
    | cons name rest => simp [Function.comp_def]

/-! ## Captures of a rule -/

section

variable {t : Template} {column : Nat} {d : Declaration}

theorem start_cell (hd : t.values[column]? = some d) : (Run.start t).cells[column]? = some {} := by
  rw [Run.start, List.getElem?_map, hd, Option.map_some]

theorem findIdx?_name (hnodup : t.header.Nodup) (hd : t.values[column]? = some d) :
    t.values.findIdx? (·.name == d.name) = some column := by
  obtain ⟨hlt, rfl⟩ := List.getElem?_eq_some_iff.mp hd
  rw [List.findIdx?_eq_some_iff_getElem]
  refine ⟨hlt, by simp, fun j hj he => ?_⟩
  have hnames : t.header[column]? = t.header[j]? := by
    simpa [Template.header, Nat.lt_trans hj hlt, hlt] using (eq_of_beq he).symm
  have hcolumn : column < t.header.length := by simpa [Template.header] using hlt
  exact Nat.ne_of_gt hj ((List.getElem?_inj hcolumn hnodup).mp hnames)

theorem assignNamed_self (hnodup : t.header.Nodup) (hd : t.values[column]? = some d) (run : Run)
    (captured : Option String) :
    (run.assignNamed t (d.name, captured)).cells[column]? =
      (run.cells[column]?).map (Cell.assign d captured) := by
  rw [Run.assignNamed, findIdx?_name hnodup hd]
  simp only [hd, Run.assign_cells, List.getElem?_modify_eq]
  rfl

/-- A capture is given to the value of its name, if there is one. -/
theorem assignNamed_cases (t : Template) (run : Run) (group : String × Option String) :
    run.assignNamed t group = run ∨ ∃ other d, t.values[other]? = some d ∧ d.name = group.1 ∧
      run.assignNamed t group = run.assign d other group.2 := by
  unfold Run.assignNamed
  split
  · exact .inl rfl
  · rename_i other hother
    obtain ⟨hlt, hname, _⟩ := List.findIdx?_eq_some_iff_getElem.mp hother
    have hd : t.values[other]? = some t.values[other] := List.getElem?_eq_getElem hlt
    refine .inr ⟨other, _, hd, eq_of_beq hname, ?_⟩
    rw [hd]

theorem ne_of_name_ne (hd : t.values[column]? = some d) {other : Nat} {d' : Declaration}
    (hd' : t.values[other]? = some d') (hne : d'.name ≠ d.name) : other ≠ column := by
  rintro rfl
  rw [hd] at hd'
  cases hd'
  exact hne rfl

theorem assignNamed_other (hd : t.values[column]? = some d) (run : Run)
    {group : String × Option String} (hne : group.1 ≠ d.name) :
    (run.assignNamed t group).cells[column]? = run.cells[column]? := by
  rcases assignNamed_cases t run group with he | ⟨other, d', hd', hname, he⟩
  · rw [he]
  · rw [he, Run.assign_cells,
      List.getElem?_modify_ne _ _ (ne_of_name_ne hd hd' (hname ▸ hne))]

theorem foldl_assignNamed_other (hd : t.values[column]? = some d)
    {groups : List (String × Option String)} (hne : ∀ group ∈ groups, group.1 ≠ d.name)
    (run : Run) :
    (groups.foldl (Run.assignNamed t) run).cells[column]? = run.cells[column]? := by
  induction groups generalizing run with
  | nil => rfl
  | cons group rest ih =>
    obtain ⟨hgroup, hrest⟩ := List.forall_mem_cons.mp hne
    rw [List.foldl_cons, ih hrest, assignNamed_other hd run hgroup]

/-- Of the captures of a rule, a value gets the one for its name. -/
theorem foldl_assignNamed_cell (hnodup : t.header.Nodup) (hd : t.values[column]? = some d)
    {groups : List (String × Option String)} (hgroups : (groups.map (·.1)).Nodup)
    {captured : Option String} (hm : (d.name, captured) ∈ groups) (run : Run) :
    (groups.foldl (Run.assignNamed t) run).cells[column]? =
      (run.cells[column]?).map (Cell.assign d captured) := by
  obtain ⟨front, back, rfl⟩ := List.append_of_mem hm
  rw [List.map_append, List.map_cons, List.nodup_middle, List.nodup_cons, ← List.map_append]
    at hgroups
  have hne : ∀ group ∈ front ++ back, group.1 ≠ d.name := by
    intro group hgroup he
    exact hgroups.1 (List.mem_map.mpr ⟨group, hgroup, he⟩)
  obtain ⟨hfront, hback⟩ := List.forall_mem_append.mp hne
  rw [List.foldl_append, List.foldl_cons, foldl_assignNamed_other hd hback,
    assignNamed_self hnodup hd, foldl_assignNamed_other hd hfront]

end

/-! ## Templates -/

theorem compile_parse {source : String} {t : Template} (h : Template.compile source = .ok t) :
    ∀ d ∈ t.values, ∃ line, Declaration.parse line = .ok d :=
  compile_values_forall h fun line _ _ hd => ⟨line, hd⟩

theorem compile_regex {source : String} {t : Template} (h : Template.compile source = .ok t) :
    ∀ state rules rule, (state, rules) ∈ t.states → rule ∈ rules →
      ∃ written, Regex.compile written = .ok rule.regex := by
  refine compile_forall_rules h fun raw number rule _ hrule => ?_
  obtain ⟨_, hregex, _⟩ := parse_eq_ok_iff.mp hrule
  obtain ⟨expanded, _, htied⟩ := compilePattern_steps hregex
  exact ⟨_, htied⟩

/-! ## Items and rules -/

/-- The captures of a rule add one item to the list of a value. -/
theorem foldl_assignNamed_items {source : String} {t : Template}
    (ht : Template.compile source = .ok t) {column : Nat} {d : Declaration} {nested : Regex}
    (hd : t.values[column]? = some d) (hlist : d.has .list = true)
    (hnested : d.nested = some nested) {state : String} {rules : List Rule} {rule : Rule}
    (hs : (state, rules) ∈ t.states) (hrule : rule ∈ rules)
    {line : List Char} {m : Regex.Match} {captured : String}
    (hcaptured : (d.name, some captured) ∈ rule.regex.namedGroups line m) {run : Run} {cell : Cell}
    (hcell : run.cells[column]? = some cell) :
    ∃ after,
      ((rule.regex.namedGroups line m).foldl (Run.assignNamed t) run).cells[column]? = some after ∧
      after.items = cell.items ++ [itemOf nested captured] := by
  have hmem : d ∈ t.values := List.mem_of_getElem? hd
  obtain ⟨written, hparse⟩ := compile_parse ht d hmem
  obtain ⟨alone, halone, hgroups, _⟩ := parse_nested hparse hnested
  obtain ⟨written', hregex⟩ := compile_regex ht state rules rule hs hrule
  refine ⟨cell.assign d (some captured), ?_, ?_⟩
  · have hnames : ((rule.regex.namedGroups line m).map (·.1)).Nodup := by
      rw [Regex.map_namedGroups]
      exact Regex.names_nodup hregex
    rw [foldl_assignNamed_cell (compile_closed ht).valueNames hd hnames hcaptured, hcell]
    rfl
  · have hnames : nested.names.Nodup := by
      rw [Regex.names, hgroups]
      exact Regex.names_nodup halone
    rw [Cell.assign_eq (compile_options_nodup ht d hmem), listItem_nested hnested hnames]
    simp only [hlist, ↓reduceIte]

/-- The expression of a value, when it is one group without assertions. -/
structure Declaration.Plain (d : Declaration) (alone : Regex) : Prop where
  compiled : Regex.compile d.regex = .ok alone
  isGroup : alone.pattern.isGroup = true
  plain : alone.pattern.plain = true

/-- **Nested items.** When a rule matches a line with a list value captured that declares nested
groups, the list gets one item, which the captured text alone decides. It shows what the rule itself
has captured for the nested groups if the value is one group without assertions, the rule holds it
as it stands at one place outside of every repetition, and the second match takes all the text. -/
theorem nested_item {source : String} {t : Template} (ht : Template.compile source = .ok t)
    {column : Nat} {d : Declaration} {nested : Regex} (hd : t.values[column]? = some d)
    (hlist : d.has .list = true) (hnested : d.nested = some nested)
    {state : String} {rules : List Rule} {rule : Rule} (hs : (state, rules) ∈ t.states)
    (hrule : rule ∈ rules) {line : List Char} {m : Regex.Match}
    (hm : rule.regex.find? line = some m) {captured : String}
    (hcaptured : (d.name, some captured) ∈ rule.regex.namedGroups line m)
    {run : Run} {cell : Cell} (hcell : run.cells[column]? = some cell) :
    (∃ after,
      ((rule.regex.namedGroups line m).foldl (Run.assignNamed t) run).cells[column]? = some after ∧
      after.items = cell.items ++ [itemOf nested captured]) ∧
    ∀ alone front more, d.Plain alone → rule.regex.Embeds alone d.name front more →
      ∃ own, nested.find? captured.toList = some own ∧
        (own.stop = captured.toList.length →
          itemOf nested captured =
            nestedObject nested.names captured (rule.regex.captured? line m)) := by
  refine ⟨foldl_assignNamed_items ht hd hlist hnested hs hrule hcaptured hcell,
    fun alone front more hplain hholds => ?_⟩
  obtain ⟨written, hparse⟩ := compile_parse ht d (List.mem_of_getElem? hd)
  obtain ⟨alone', halone', hgroups, hfind⟩ := parse_nested hparse hnested
  obtain ⟨written', hregex⟩ := compile_regex ht state rules rule hs hrule
  obtain rfl : alone' = alone := Except.ok.inj (halone'.symm.trans hplain.compiled)
  obtain ⟨own, hown, hsame⟩ :=
    hholds.captured?_eq hregex halone' hplain.isGroup hplain.plain hm hcaptured
  refine ⟨own, by rw [hfind, hown], fun hstop => ?_⟩
  simp only [itemOf, hfind, hown, nestedObject]
  split
  · rfl
  · refine congrArg Json.ofMembers (List.map_congr_left fun name hname => ?_)
    have hname' : name ∈ alone'.names := by rwa [Regex.names, ← hgroups]
    rw [Regex.captured?_congr hgroups, hsame hstop name hname']

def peerText : String :=
  "Value List Peer ((?P<ip>\\S+) as (?P<asn>\\d+))\n\nStart\n  ^peer ${Peer}$$ -> Record\n"

def peerLine : List Char := "peer 10.0.0.1 as 65000".toList

def peerCapture : String := "10.0.0.1 as 65000"

set_option synthInstance.maxSize 2000 in
/-- An item shows address and number of a peer as the rule has captured them. -/
theorem nested_item_peer :
    ∃ (t : Template) (d : Declaration) (nested : Regex) (rule : Rule) (m : Regex.Match),
      Template.compile peerText = .ok t ∧ t.values[0]? = some d ∧ d.nested = some nested ∧
      rule.regex.find? peerLine = some m ∧
      (d.name, some peerCapture) ∈ rule.regex.namedGroups peerLine m ∧
      (∃ after : Cell, ((rule.regex.namedGroups peerLine m).foldl (Run.assignNamed t)
        (Run.start t)).cells[0]? = some after ∧ after.items = [itemOf nested peerCapture]) ∧
      itemOf nested peerCapture =
        nestedObject nested.names peerCapture (rule.regex.captured? peerLine m) := by
  obtain ⟨t, ht, d, hd, nested, hnested, state, hs, rule, hrule, m, hm, alone, halone, own, hown,
      hlist, hcaptured, hgroup, hplain, hholds, hstop⟩ :
      ∃ t, Template.compile peerText = .ok t ∧ ∃ d ∈ t.values[0]?, ∃ nested ∈ d.nested,
        ∃ state ∈ t.states, ∃ rule ∈ state.2, ∃ m ∈ rule.regex.find? peerLine,
        ∃ alone ∈ (Regex.compile d.regex).toOption, ∃ own ∈ nested.find? peerCapture.toList,
          d.has .list = true ∧
          (d.name, some peerCapture) ∈ rule.regex.namedGroups peerLine m ∧
          alone.pattern.isGroup = true ∧ alone.pattern.plain = true ∧
          rule.regex.Embeds alone d.name [] [some "ip", some "asn"] ∧
          own.stop = peerCapture.toList.length :=
    exists_compile (by decide +kernel)
  have hcell := start_cell hd
  obtain ⟨hafter, hsame⟩ := nested_item ht hd hlist hnested hs hrule hm hcaptured hcell
  obtain ⟨own', hown', hitem⟩ :=
    hsame alone [] [some "ip", some "asn"] ⟨eq_ok_of_toOption halone, hgroup, hplain⟩ hholds
  obtain rfl : own = own' := Option.some.inj (hown.symm.trans hown')
  exact ⟨t, d, nested, rule, m, ht, hd, hnested, hm, hcaptured, hafter, hitem hstop⟩

def pairText : String :=
  "Value List Pair ((?P<a>x)|(?P<b>xy))\n\nStart\n  ^${Pair}z -> Record\n"

def pairLine : List Char := "xyz".toList

set_option synthInstance.maxSize 2000 in
/-- The rule has to take the second branch to get to the `z`, and the second match, which takes the
first one, stops before the end of the capture. -/
theorem nested_item_shorter :
    ∃ (t : Template) (d : Declaration) (nested : Regex) (rule : Rule) (m : Regex.Match)
      (after : Cell),
      Template.compile pairText = .ok t ∧ t.values[0]? = some d ∧ d.has .list = true ∧
      d.nested = some nested ∧ (∃ state ∈ t.states, rule ∈ state.2) ∧
      rule.regex.find? pairLine = some m ∧
      (d.name, some "xy") ∈ rule.regex.namedGroups pairLine m ∧
      ((rule.regex.namedGroups pairLine m).foldl (Run.assignNamed t) (Run.start t)).cells[0]? =
        some after ∧
      after.items = [.object [("a", .string "x"), ("b", .null)]] ∧
      nestedObject nested.names "xy" (rule.regex.captured? pairLine m) =
        .object [("a", .null), ("b", .string "xy")] ∧
      after.items ≠ [nestedObject nested.names "xy" (rule.regex.captured? pairLine m)] := by
  obtain ⟨t, ht, d, hd, nested, hnested, state, hs, rule, hrule, m, hm, own, hown, hlist, hcaptured,
      hnames, hruleA, hruleB, hownA, hownB⟩ :
      ∃ t, Template.compile pairText = .ok t ∧ ∃ d ∈ t.values[0]?, ∃ nested ∈ d.nested,
        ∃ state ∈ t.states, ∃ rule ∈ state.2, ∃ m ∈ rule.regex.find? pairLine,
        ∃ own ∈ nested.find? "xy".toList,
          d.has .list = true ∧ (d.name, some "xy") ∈ rule.regex.namedGroups pairLine m ∧
          nested.names = ["a", "b"] ∧ rule.regex.captured? pairLine m "a" = none ∧
          rule.regex.captured? pairLine m "b" = some "xy" ∧
          nested.captured? "xy".toList own "a" = some "x" ∧
          nested.captured? "xy".toList own "b" = none :=
    exists_compile (by decide +kernel)
  have hcell := start_cell hd
  have hown' : nested.find? "xy".toList = some own := hown
  have hitem : itemOf nested "xy" = .object [("a", .string "x"), ("b", .null)] := by
    simp only [itemOf, hown', nestedObject, hnames, List.map_cons, hownA, hownB]
    rfl
  have hobject : nestedObject nested.names "xy" (rule.regex.captured? pairLine m) =
      .object [("a", .null), ("b", .string "xy")] := by
    simp only [nestedObject, hnames, List.map_cons, hruleA, hruleB]
    rfl
  obtain ⟨after, hafter, hitems⟩ :=
    foldl_assignNamed_items ht hd hlist hnested hs hrule hcaptured hcell
  rw [hitem] at hitems
  refine ⟨t, d, nested, rule, m, after, ht, hd, hlist, hnested, ⟨state, hs, hrule⟩, hm, hcaptured,
    hafter, hitems, hobject, ?_⟩
  rw [hitems, hobject]
  simp

end TemplateBench.TextFsm
