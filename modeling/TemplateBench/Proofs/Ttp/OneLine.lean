import TemplateBench.Proofs.Json.Compact
import TemplateBench.Proofs.Json.Members
import TemplateBench.Proofs.Regex.Captures
import TemplateBench.Proofs.Ttp.Blocks

/-!
Tables of a token pattern template have no line feeds.

* `compile_header_oneLine`: columns are variables, whose names have letters, digits and underscores.
* `Passage.texts_oneLine`: what a passage captures are parts of its lines.
* `parse_oneLine`: so every cell has one line, a number too.
-/
namespace TemplateBench.Ttp
open Text

/-! ## Names -/

theorem Variable.parse_isVariableName {body : List Char} {v : Variable} {regex : String}
    (h : Variable.parse body = .ok (v, regex)) : isVariableName v.name.toList = true := by
  unfold Variable.parse at h
  split at h
  · cases h
  · split at h
    · rename_i hname
      rw [applyItems_name h, String.toList_ofList]
      exact hname
    · cases h

theorem assemble_isVariableName {segs : List Segment} :
    ∀ {count : Nat} {pattern : List Char} {targets : List Variable},
      assemble count segs = .ok (pattern, targets) →
      ∀ v ∈ targets, isVariableName v.name.toList = true := by
  induction segs with
  | nil =>
    intro count pattern targets h
    cases h
    simp
  | cons seg rest ih =>
    intro count pattern targets h
    cases seg with
    | literal text =>
      obtain ⟨_, hrest, h⟩ := bind_eq_ok_iff.mp h
      cases h
      exact ih hrest
    | placeholder body =>
      obtain ⟨_, hv, h⟩ := bind_eq_ok_iff.mp h
      obtain ⟨_, hrest, h⟩ := bind_eq_ok_iff.mp h
      cases h
      exact List.forall_mem_cons.mpr ⟨Variable.parse_isVariableName hv, ih hrest⟩

theorem Line.compile_isVariableName {line : List Char} {l : Line} (h : Line.compile line = .ok l) :
    ∀ v ∈ l.targets, isVariableName v.name.toList = true := by
  unfold Line.compile at h
  split at h
  · cases h
  · rename_i hassemble
    split at h
    · cases h
    · cases h
      exact assemble_isVariableName hassemble

theorem oneLine_of_isVariableName {name : String} (h : isVariableName name.toList = true) :
    OneLine name := by
  intro hm
  have hchars := List.all_eq_true.mp (Bool.and_eq_true_iff.mp h).2 '\n' hm
  cases hchars

/-- Every line of a group is compiled from a pattern line. -/
theorem exists_compile_of_mem_groups {source : String} {t : Template}
    (h : Template.compile source = .ok t) {g : Group} (hg : g ∈ t.groups) {l : Line}
    (hl : l ∈ g.lines) : ∃ text, Line.compile text = .ok l := by
  obtain ⟨d, hreads, hend, -, rfl⟩ := compile_eq_ok_iff.mp h
  obtain ⟨parts, -, hgains⟩ := (hreads.parts hend).1 rfl
  obtain ⟨b, -, hb⟩ := exists_of_forall₂ hgains.groups.flip g hg
  obtain ⟨text, -, htext⟩ := exists_of_forall₂ hb.lines.flip l hl
  exact ⟨text, htext⟩

theorem compile_header {source : String} {t : Template} (h : Template.compile source = .ok t) :
    t.header = Template.headerOf t.groups := by
  obtain ⟨d, _, _, _, rfl⟩ := compile_eq_ok_iff.mp h
  rfl

theorem compile_header_oneLine {source : String} {t : Template}
    (h : Template.compile source = .ok t) : ∀ name ∈ t.header, OneLine name := by
  intro name hname
  rw [compile_header h, Template.headerOf, distinct_eq_eraseDups, List.mem_eraseDups] at hname
  obtain ⟨g, hg, hname⟩ := List.mem_flatMap.mp hname
  obtain ⟨l, hl, hname⟩ := List.mem_flatMap.mp hname
  obtain ⟨v, hv, rfl⟩ := List.mem_map.mp hname
  obtain ⟨text, htext⟩ := exists_compile_of_mem_groups h hg hl
  exact oneLine_of_isVariableName (Line.compile_isVariableName htext v hv)

/-! ## Cells -/

theorem Line.texts_subset {l : Line} {line : List Char} {captured : List (Variable × String)}
    (h : l.texts line = some captured) : ∀ c ∈ captured, c.2.toList ⊆ line := by
  obtain ⟨m, _, rfl⟩ := Option.map_eq_some_iff.mp h
  intro c hc
  obtain ⟨⟨v, k⟩, _, hc⟩ := List.mem_filterMap.mp hc
  obtain ⟨text, htext, rfl⟩ := Option.map_eq_some_iff.mp hc
  exact Regex.namedGroups_subset (mem_of_lookup (Option.join_eq_some_iff.mp htext))

theorem Line.texts_oneLine {l : Line} {line : List Char} (hline : '\n' ∉ line)
    {captured : List (Variable × String)} (h : l.texts line = some captured) :
    ∀ c ∈ captured, OneLine c.2 :=
  fun c hc hm => hline (Line.texts_subset h c hc hm)

/-- What a passage captures has one line if all its lines have. -/
theorem Passage.texts_oneLine (first : Line) (others : List Line) {p : Passage}
    (hp : ∀ line ∈ p.opening :: p.body, '\n' ∉ line) : ∀ c ∈ p.texts first others, OneLine c.2 := by
  obtain ⟨hopening, hbody⟩ := List.forall_mem_cons.mp hp
  intro c hc
  rcases List.mem_append.mp hc with hc | hc
  · cases htexts : first.texts p.opening with
    | none =>
      rw [htexts] at hc
      cases hc
    | some captured =>
      rw [htexts] at hc
      exact Line.texts_oneLine hopening htexts c hc
  · obtain ⟨line, hline, hc⟩ := List.mem_flatMap.mp hc
    cases htexts : others.findSome? (·.texts line) with
    | none =>
      rw [htexts] at hc
      cases hc
    | some captured =>
      rw [htexts] at hc
      obtain ⟨l, _, hl⟩ := List.exists_of_findSome?_eq_some htexts
      exact Line.texts_oneLine (hbody line hline) hl c hc

theorem Line.valueOf_oneLine (v : Variable) {text : String} (h : OneLine text) :
    OneLine (cellText (valueOf v text)) := by
  refine oneLine_cellText fun s hs => ?_
  unfold valueOf at hs
  split at hs <;> cases hs
  exact h

theorem cellOf_oneLine {captured : List (Variable × String)} (h : ∀ c ∈ captured, OneLine c.2)
    (name : String) : OneLine (cellText (cellOf captured name)) := by
  unfold cellOf
  split
  · rename_i v text hfind
    exact Line.valueOf_oneLine v (h _ (List.mem_reverse.mp (List.mem_of_find?_eq_some hfind)))
  · decide

theorem Group.rows_oneLine {header : List String} (hheader : header.Nodup) (g : Group)
    {text : List (List Char)} (htext : ∀ line ∈ text, '\n' ∉ line) :
    ∀ row ∈ g.rows header text, ∀ cell ∈ row, OneLine (cellText cell) := by
  unfold Group.rows
  cases g.lines with
  | nil => simp
  | cons first others =>
    dsimp only
    rw [collect_eq_passages first others hheader]
    intro row hrow cell hcell
    obtain ⟨p, hp, rfl⟩ := List.mem_map.mp hrow
    obtain ⟨name, _, rfl⟩ := List.mem_map.mp hcell
    refine cellOf_oneLine (Passage.texts_oneLine first others fun line hline => htext line ?_) name
    rw [(divides_passages first.matches text).lines]
    exact List.mem_append_right _ (List.mem_flatMap.mpr ⟨p, hp, hline⟩)

/-- No cell of a table has a line feed. -/
theorem parse_oneLine {source : String} {t : Template} (h : Template.compile source = .ok t)
    (text : String) : ∀ row ∈ (t.parse text).rows, ∀ cell ∈ row, OneLine (cellText cell) := by
  intro row hrow
  obtain ⟨g, _, hrow⟩ := List.mem_flatMap.mp hrow
  exact g.rows_oneLine (compile_header_nodup h) (fun line => not_mem_of_mem_lines) row hrow

end TemplateBench.Ttp
