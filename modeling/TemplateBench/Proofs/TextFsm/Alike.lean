import Mathlib.Data.List.Forall2
import TemplateBench.Proofs.TextFsm.Trace
import TemplateBench.Proofs.TextFsm.Trailing

/-!
Templates whose values differ in nothing that a run looks at.

* `trace_congr`: reading looks at the names of the values and at the states.
* `clear_congr`, `clearAll_congr`, `record_congr`: forgetting and recording look at what each value
  does to its cell.
* `parse_congr`: so templates with alike values give the same tables.
* `compile_alike`: texts whose lines are the same, or declare alike values, compile to such templates.
-/
namespace TemplateBench.TextFsm
open Text

/-! ## Runs -/

section Runs
variable {t t' : Template}

theorem findIdx?_congr (h : t.header = t'.header) (name : String) :
    t.values.findIdx? (·.name == name) = t'.values.findIdx? (·.name == name) := by
  have hnames := congrArg (List.findIdx? (· == name)) h
  rwa [Template.header, Template.header, List.findIdx?_map, List.findIdx?_map] at hnames

theorem traceLines_congr (hh : t.header = t'.header) (hs : t.states = t'.states)
    (lines : List (List Char)) : ∀ state, traceLines t state lines = traceLines t' state lines := by
  have hevents : ruleEvents t = ruleEvents t' := by
    funext line act
    simp only [ruleEvents, captureEvents, findIdx?_congr hh]
  have hresult : lineResult t = lineResult t' := by
    funext line state acts
    simp only [lineResult, stateAfter, hs]
  induction lines with
  | nil => exact fun _ => rfl
  | cons line rest ih =>
    intro state
    simp only [traceLines, hevents, hresult, hs, ih]

theorem trace_congr (hh : t.header = t'.header) (hs : t.states = t'.states) (source : String) :
    t.trace source = t'.trace source := by
  simp only [Template.trace, traceLines_congr hh hs, closingEvents, hs]

theorem zipWith_congr {β : Type} {ds ds' : List Declaration} {f : Declaration → Cell → β}
    (h : ds.map f = ds'.map f) (cells : List Cell) :
    List.zipWith f ds cells = List.zipWith f ds' cells := by
  have hmap : ∀ ds : List Declaration,
      List.zipWith f ds cells = List.zipWith (fun g cell => g cell) (ds.map f) cells :=
    fun _ => by rw [List.zipWith_map_left]
  rw [hmap, h, ← hmap]

theorem clear_congr (h : t.values.map Cell.clear = t'.values.map Cell.clear) (run : Run) :
    run.clear t = run.clear t' := by
  rw [Run.clear, Run.clear, zipWith_congr h]

theorem clearAll_congr (h : t.values.map Cell.clearAll = t'.values.map Cell.clearAll) (run : Run) :
    run.clearAll t = run.clearAll t' := by
  rw [Run.clearAll, Run.clearAll, zipWith_congr h]

theorem saveCells_congr {ds ds' : List Declaration} (h : ds.map Cell.save? = ds'.map Cell.save?)
    (cells : List Cell) : Run.saveCells ds cells = Run.saveCells ds' cells := by
  induction ds generalizing ds' cells with
  | nil =>
    obtain rfl : ds' = [] := List.map_eq_nil_iff.mp h.symm
    rfl
  | cons d ds ih =>
    cases ds' with
    | nil => cases h
    | cons d' ds' =>
      simp only [List.map_cons, List.cons.injEq] at h
      cases cells with
      | nil => rfl
      | cons cell cells => rw [Run.saveCells, Run.saveCells, h.1, ih h.2]

theorem record_congr (hclear : t.values.map Cell.clear = t'.values.map Cell.clear)
    (hsave : t.values.map Cell.save? = t'.values.map Cell.save?) (run : Run) :
    run.record t = run.record t' := by
  have hempty : t.values.isEmpty = t'.values.isEmpty := by
    rw [← List.isEmpty_map (f := Cell.save?), hsave, List.isEmpty_map]
  simp only [Run.record, hempty, saveCells_congr hsave, clear_congr hclear]

end Runs

/-! ## Alike values -/

/-- Values that have the same name and the same expression, and do the same to their cells. -/
structure Declaration.Alike (d d' : Declaration) : Prop where
  name : d.name = d'.name
  template : d.template = d'.template
  assign : Cell.assign d = Cell.assign d'
  clear : Cell.clear d = Cell.clear d'
  clearAll : Cell.clearAll d = Cell.clearAll d'
  save : Cell.save? d = Cell.save? d'
  fillup : d.has .fillup = d'.has .fillup

theorem Declaration.Alike.refl (d : Declaration) : d.Alike d := ⟨rfl, rfl, rfl, rfl, rfl, rfl, rfl⟩

theorem Declaration.Alike.assignRun {d d' : Declaration} (h : d.Alike d') :
    Run.assign d = Run.assign d' := by
  funext column captured run
  simp only [Run.assign, h.assign, h.fillup]

/-- What is the same of two alike values is the same of two lists of them. -/
theorem map_eq_of_alike {β : Type} {f : Declaration → β} (hf : ∀ {d d'}, d.Alike d' → f d = f d')
    {ds ds' : List Declaration} (h : List.Forall₂ Declaration.Alike ds ds') :
    ds.map f = ds'.map f := by
  induction h with
  | nil => rfl
  | cons hd _ ih => rw [List.map_cons, List.map_cons, hf hd, ih]

section Parsing
variable {t t' : Template} (hv : List.Forall₂ Declaration.Alike t.values t'.values)
include hv

theorem apply_congr (run : Run) (e : Event) : run.apply t e = run.apply t' e := by
  have hclear := map_eq_of_alike (f := Cell.clear) Declaration.Alike.clear hv
  cases e with
  | assign column captured =>
    have hassign := congrArg (·[column]?) (map_eq_of_alike Declaration.Alike.assignRun hv)
    simp only [List.getElem?_map] at hassign
    simp only [Run.apply]
    cases hd : t.values[column]? <;> cases hd' : t'.values[column]? <;>
      simp only [hd, hd', Option.map_none, Option.map_some, Option.some.injEq, reduceCtorEq]
        at hassign
    · rfl
    · exact congrFun (congrFun (congrFun hassign column) captured) run
  | record => exact record_congr hclear (map_eq_of_alike Declaration.Alike.save hv) run
  | clear => exact clear_congr hclear run
  | clearAll => exact clearAll_congr (map_eq_of_alike Declaration.Alike.clearAll hv) run

/-- **Alike templates.** They give the same table for every text, or reject it for the same rule. -/
theorem parse_congr (hs : t.states = t'.states) (source : String) :
    t.parse source = t'.parse source := by
  have hheader : t.header = t'.header := map_eq_of_alike Declaration.Alike.name hv
  have happly : Run.apply t = Run.apply t' := by
    funext run e
    exact apply_congr hv run e
  have hstart : Run.start t = Run.start t' := by
    rw [Run.start, Run.start, map_eq_of_alike (f := fun _ => ({} : Cell)) (fun _ => rfl) hv]
  simp only [parse_eq_play, trace_congr hheader hs, Run.play, happly, hstart, hheader]

end Parsing

/-! ## Alike texts -/

/-- Lines that are the same, or declare alike values. -/
def LineAlike (line line' : List Char) : Prop :=
  line = line' ∨ ∃ d d', Declares line d ∧ Declares line' d' ∧ d.Alike d'

def NumberedAlike (line line' : NumberedLine) : Prop :=
  line.1 = line'.1 ∧ LineAlike line.2 line'.2

theorem numberFrom_alike {ls ls' : List (List Char)} (h : List.Forall₂ LineAlike ls ls') :
    ∀ k, List.Forall₂ NumberedAlike (numberFrom k ls) (numberFrom k ls') := by
  induction h with
  | nil => exact fun _ => .nil
  | cons hl _ ih =>
    intro k
    rw [numberFrom_cons, numberFrom_cons]
    exact .cons ⟨rfl, hl⟩ (ih (k + 1))

theorem any_name_eq {values values' : List Declaration}
    (h : List.Forall₂ Declaration.Alike values values') (name : String) :
    values.any (·.name == name) = values'.any (·.name == name) := by
  have hnames := congrArg (List.any · (· == name)) (map_eq_of_alike Declaration.Alike.name h)
  simpa only [List.any_map, Function.comp_def] using hnames

theorem forall₂_concat {values values' : List Declaration} {d d' : Declaration}
    (h : List.Forall₂ Declaration.Alike values values') (hd : d.Alike d') :
    List.Forall₂ Declaration.Alike (values ++ [d]) (values' ++ [d']) :=
  List.rel_append h (.cons hd .nil)

/-- Alike lines are read as alike values, and leave alike lines. -/
theorem readValues_alike {ls ls' : List NumberedLine} (h : List.Forall₂ NumberedAlike ls ls') :
    ∀ {values values' : List Declaration} {read : List Declaration × List NumberedLine},
      List.Forall₂ Declaration.Alike values values' → readValues values ls = .ok read →
      ∃ read', readValues values' ls' = .ok read' ∧
        List.Forall₂ Declaration.Alike read.1 read'.1 ∧
        List.Forall₂ NumberedAlike read.2 read'.2 := by
  induction h with
  | nil =>
    intro values values' read hv hread
    cases hread
    exact ⟨(values', []), rfl, hv, .nil⟩
  | @cons line line' rest rest' hl hrest ih =>
    obtain ⟨k, raw⟩ := line
    obtain ⟨k', raw'⟩ := line'
    obtain ⟨rfl, rfl | ⟨d, d', hd, hd', hdd'⟩⟩ := hl
    · intro values values' read hv hread
      rcases readValues_cases hread with ⟨hblank, rfl⟩ | ⟨hcomment, hread⟩ | ⟨d, hd, hnew, hread⟩
      · exact ⟨(values', rest'), readValues_blank hblank values' k rest', hv, hrest⟩
      · rw [readValues_comment hcomment]
        exact ih hv hread
      · rw [hd.readValues_cons, ← any_name_eq hv, hnew]
        exact ih (forall₂_concat hv (.refl d)) hread
    · intro values values' read hv hread
      rw [hd.readValues_cons] at hread
      rw [hd'.readValues_cons, ← any_name_eq hv, ← hdd'.name]
      split at hread
      · cases hread
      · rename_i hnew
        rw [if_neg hnew]
        exact ih (forall₂_concat hv hdd') hread

/-- Where states are read, alike lines that are not the same are no lines of a state. -/
theorem readStates_alike (templates : Templates) {ls ls' : List NumberedLine}
    (h : List.Forall₂ NumberedAlike ls ls') :
    ∀ {current : Option (String × List Rule)} {states read : List (String × List Rule)},
      readStates templates current states ls = .ok read →
      readStates templates current states ls' = .ok read := by
  induction h with
  | nil => exact fun hread => hread
  | @cons line line' rest rest' hl _ ih =>
    obtain ⟨k, raw⟩ := line
    obtain ⟨k', raw'⟩ := line'
    obtain ⟨rfl, rfl | ⟨d, _, hd, _⟩⟩ := hl
    · -- the same line leads to the same call for the rest, or to an error
      intro current states read hread
      cases current <;> simp only [readStates] at hread ⊢ <;> grind
    · -- a line that declares a value ends the reading of states with an error
      intro current states read hread
      obtain ⟨e, he⟩ := hd.readStates_cons templates current states k rest
      rw [he] at hread
      cases hread

/-- Checking looks at the states only. -/
theorem check_withValues (t : Template) (values : List Declaration) :
    ({ t with values } : Template).check = t.check.map fun u => { u with values } := by
  simp only [Template.check]
  split
  · rfl
  · split
    · rfl
    · split <;> rfl

/-- **Alike texts.** If one compiles, so does the other, to a template with the same states and alike
values. -/
theorem compile_alike {text text' : String} {t : Template}
    (hl : List.Forall₂ LineAlike (lines text.toList) (lines text'.toList))
    (h : Template.compile text = .ok t) :
    ∃ t', Template.compile text' = .ok t' ∧ t'.states = t.states ∧
      List.Forall₂ Declaration.Alike t.values t'.values := by
  obtain ⟨values, rest, states, hvalues, hstates, hcheck⟩ := compile_steps h
  have hne : text' ≠ "" := by
    rintro rfl
    have hnil : lines text.toList = [] := List.forall₂_nil_right_iff.mp hl
    rw [compile_eq_ofLines (by rintro rfl; cases h), hnil] at h
    cases h
  obtain ⟨⟨values', rest'⟩, hvalues', hv, hrest⟩ :=
    readValues_alike (numberFrom_alike hl 1) .nil hvalues
  have htemplates : templatesOf values = templatesOf values' :=
    map_eq_of_alike (fun ha => by rw [ha.name, ha.template]) hv
  have hstates' := readStates_alike _ hrest hstates
  refine ⟨{ t with values := values' }, ?_, rfl, ?_⟩
  · rw [compile_eq_ofLines hne]
    simp only [Template.ofLines, hvalues', bind, Except.bind, ← htemplates, hstates']
    rw [check_withValues ⟨values, states⟩ values', hcheck]
    rfl
  · rw [check_values hcheck]
    exact hv

end TemplateBench.TextFsm
