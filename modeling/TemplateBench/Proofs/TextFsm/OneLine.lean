import TemplateBench.Proofs.Json.Compact
import TemplateBench.Proofs.Regex.Captures
import TemplateBench.Proofs.TextFsm.DeclarationLines
import TemplateBench.Proofs.TextFsm.Rows

/-!
Tables of a state machine have no line feeds.

* `compile_header_oneLine`: the name of a value is a part of the line that declares it.
* `trace_oneLine`: what a rule captures is a part of the line that it acts on.
* `rowAt_oneLine`: so a recorded cell has one line, a list since it is shown as JSON.
* `parse_oneLine`: filling up writes captured texts only, so this is true of all cells of a table.
-/
namespace TemplateBench.TextFsm
open Text

variable {t : Template}

theorem compile_header_oneLine {text : String} (h : Template.compile text = .ok t) :
    ∀ name ∈ t.header, OneLine name := by
  have hnames : ∀ d ∈ t.values, OneLine d.name :=
    compile_values_forall h fun line d hline hd hm =>
      hline (Declaration.name_subset_of_parse hd hm)
  simpa [Template.header] using hnames

/-! ## Events -/

/-- If the event captures a text, this text has one line. -/
def Event.CapturesOneLine (e : Event) : Prop :=
  ∀ column text, e = .assign column (some text) → Text.OneLine text

section
variable {line : List Char}

theorem captureEvents_oneLine (hline : '\n' ∉ line) (r : Regex) (m : Regex.Match) :
    ∀ e ∈ captureEvents t (r.namedGroups line m), e.CapturesOneLine := by
  rintro e he column text rfl hm
  obtain ⟨⟨name, captured⟩, hgroup, he⟩ := List.mem_filterMap.mp he
  obtain ⟨_, _, he⟩ := Option.map_eq_some_iff.mp he
  cases he
  exact hline (Regex.namedGroups_subset hgroup hm)

theorem recordOp_events_oneLine (op : RecordOp) : ∀ e ∈ op.events, e.CapturesOneLine := by
  rintro e he column text rfl
  cases op <;> simp [RecordOp.events] at he

theorem ruleEvents_oneLine (hline : '\n' ∉ line) (act : Rule × Regex.Match) :
    ∀ e ∈ ruleEvents t line act, e.CapturesOneLine := by
  intro e he
  rcases List.mem_append.mp he with he | he
  · exact captureEvents_oneLine hline act.1.regex act.2 e he
  · exact recordOp_events_oneLine act.1.action.recordOp e he

end

theorem traceLines_oneLine {ls : List (List Char)} (hls : ∀ line ∈ ls, '\n' ∉ line) :
    ∀ state, ∀ e ∈ (traceLines t state ls).events, e.CapturesOneLine := by
  induction ls with
  | nil => exact fun state e he => nomatch he
  | cons line rest ih =>
    intro state e he
    obtain ⟨hline, hrest⟩ := List.forall_mem_cons.mp hls
    have hacts : ∀ e ∈ (acting line ((t.states.lookup state).getD [])).flatMap (ruleEvents t line),
        e.CapturesOneLine := by
      intro e he
      obtain ⟨act, _, he⟩ := List.mem_flatMap.mp he
      exact ruleEvents_oneLine hline act e he
    simp only [traceLines] at he
    split at he
    · exact hacts e he
    · split at he
      · exact hacts e he
      · rcases List.mem_append.mp he with he | he
        · exact hacts e he
        · exact ih hrest _ e he

theorem trace_oneLine (t : Template) (source : String) :
    ∀ e ∈ (t.trace source).events, e.CapturesOneLine := by
  have hread := traceLines_oneLine (t := t)
    (fun line (hline : line ∈ lines source.toList) => not_mem_of_mem_lines hline) "Start"
  intro e he
  unfold Template.trace at he
  dsimp only at he
  split at he
  · exact hread e he
  · rcases List.mem_append.mp he with he | he
    · exact hread e he
    · unfold closingEvents at he
      split at he
      · exact recordOp_events_oneLine .record e he
      · cases he

/-! ## Cells -/

theorem mem_of_lastCapture {d : Declaration} {column : Nat} {past : List Event} {text : String}
    (h : lastCapture d column past = some text) : .assign column (some text) ∈ past := by
  have hhead : (captures d column past).head? = some (some text) := Option.join_eq_some_iff.mp h
  obtain ⟨e, he, hcapture⟩ := List.mem_filterMap.mp (List.mem_of_head? hhead)
  have hpast : e ∈ past := (List.takeWhile_prefix _).subset he
  cases e with
  | assign other captured =>
    by_cases hcolumn : other = column
    · simp only [Event.capture?, if_pos hcolumn, Option.some.injEq] at hcapture
      rwa [← hcolumn, ← hcapture]
    · simp [Event.capture?, hcolumn] at hcapture
  | _ => cases hcapture

theorem rowAt_oneLine {past : List Event} {row : List Json} (hpast : ∀ e ∈ past, e.CapturesOneLine)
    (h : rowAt t.values past = some row) : ∀ cell ∈ row, OneLine (cellText cell) := by
  simp only [rowAt] at h
  split at h
  · cases h
  · cases h
    intro cell hcell
    obtain ⟨⟨d, column⟩, _, rfl⟩ := List.mem_map.mp hcell
    refine oneLine_cellText fun s hs => ?_
    dsimp only [cellAt] at hs
    split at hs
    · cases hs
    · cases hs
      cases hlast : lastCapture d column past with
      | none => decide
      | some text => exact hpast _ (mem_of_lastCapture hlast) column text rfl

/-- No cell of a table has a line feed. -/
theorem parse_oneLine {text source : String} {table : Table} (h : Template.compile text = .ok t)
    (hp : t.parse source = .ok table) :
    ∀ row ∈ table.rows, ∀ cell ∈ row, OneLine (cellText cell) := by
  have hrows := (Run.Follows.start t).play_rows_forall (compile_options_nodup h)
    (P := fun row => ∀ cell ∈ row, OneLine (cellText cell))
    (fun past row => rowAt_oneLine)
    (fun column text row htext hrow cell hcell =>
      (List.mem_or_eq_of_mem_set hcell).elim (hrow cell) fun he => he ▸ htext column text rfl)
    (trace_oneLine t source) (by simp) (by simp [Run.start])
  rw [parse_eq_play] at hp
  cases hresult : (t.trace source).result with
  | error rejection =>
    rw [hresult] at hp
    cases hp
  | ok state =>
    rw [hresult] at hp
    cases hp
    exact hrows

end TemplateBench.TextFsm
