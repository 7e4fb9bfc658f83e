import TemplateBench.Proofs.TextFsm.Backfill
import TemplateBench.Proofs.TextFsm.Reachable

/-!
Rows are complete, in every state of every run.

* `RowComplete`: one cell a value, none of them null, and none empty that is required.
* `rowAt_complete`: a record makes such a row. A list that is tested on its last capture is not
  empty if that capture is not, since it has at least this item.
* `fillUp_forall`: filling up only ever replaces cells by a given one.
* `Run.Reachable.rows_forall`: what holds of recorded rows, and of rows that get a text in a column
  that fills up, holds of all rows of a run; `Run.Follows.play_rows_forall` says so where it depends
  on what is captured.
* `reachable_rows_complete`: so all rows of a run are complete, and all rows of a table.
-/
namespace TemplateBench.TextFsm
open Text

/-- One cell for each value, none of them null, and those of required values are not empty. -/
structure RowComplete (t : Template) (row : List Json) : Prop where
  length : row.length = t.values.length
  notNull : ∀ cell ∈ row, cell ≠ .null
  required : ∀ (column : Nat) (d : Declaration), t.values[column]? = some d →
    d.has .required = true → isEmptyCell row[column]? = false

/-! ## Recorded rows -/

theorem cellAt_ne_null (d : Declaration) (column : Nat) (past : List Event) :
    cellAt d column past ≠ .null := by
  unfold cellAt
  split <;> simp

theorem captures_ne_nil_of_lastCapture {d : Declaration} {column : Nat} {past : List Event}
    (h : ((lastCapture d column past).getD "").isEmpty = false) :
    captures d column past ≠ [] := by
  intro hnil
  simp [lastCapture, hnil] at h

theorem cellAt_not_empty {d : Declaration} {column : Nat} {past : List Event}
    (hr : d.has .required = true) (h : refuses d column past = false) :
    isEmptyCell (some (cellAt d column past)) = false := by
  simp only [refuses, hr, Bool.true_and] at h
  cases hl : d.has .list with
  | true =>
    have hne : captures d column past ≠ [] := by
      split at h
      · intro hnil
        simp [hnil] at h
      · exact captures_ne_nil_of_lastCapture h
    simpa [cellAt, hl, isEmptyCell] using hne
  | false =>
    have ht : d.testsItems = false := by
      cases ht : d.testsItems with
      | false => rfl
      | true => rw [Declaration.has_list_of_testsItems ht] at hl; cases hl
    rw [ht] at h
    simpa [cellAt, hl, isEmptyCell] using h

theorem rowAt_complete {t : Template} {past : List Event} {row : List Json}
    (h : rowAt t.values past = some row) : RowComplete t row := by
  simp only [rowAt] at h
  split at h
  · cases h
  · rename_i hnot
    simp only [Bool.or_eq_true, not_or, Bool.not_eq_true] at hnot
    obtain ⟨hany, _⟩ := hnot
    cases h
    refine ⟨by simp, fun cell hc => ?_, fun column d hd hr => ?_⟩
    · obtain ⟨⟨d, column⟩, _, rfl⟩ := List.mem_map.mp hc
      exact cellAt_ne_null d column past
    · have hmem : (d, column) ∈ t.values.zipIdx := List.mk_mem_zipIdx_iff_getElem?.mpr hd
      have hrefuses : refuses d column past = false := by
        simpa using List.any_eq_false.mp hany (d, column) hmem
      simpa [hd] using cellAt_not_empty hr hrefuses

/-! ## Filled rows -/

theorem fillDown_forall {P : List Json → Prop} {column : Nat} {value : Json}
    (hset : ∀ row, P row → P (row.set column value)) (rows : List (List Json))
    (h : ∀ row ∈ rows, P row) : ∀ row ∈ fillDown column value rows, P row := by
  induction rows with
  | nil => exact h
  | cons row rest ih =>
    intro r hr
    have hrest := ih fun r hr => h r (by simp [hr])
    simp only [fillDown] at hr
    split at hr
    · rcases List.mem_cons.mp hr with he | hm
      · rw [he]
        exact hset row (h row (by simp))
      · exact hrest r hm
    · exact h r hr

theorem fillUp_forall {P : List Json → Prop} {column : Nat} {value : Json}
    (hset : ∀ row, P row → P (row.set column value)) (rows : List (List Json))
    (h : ∀ row ∈ rows, P row) : ∀ row ∈ fillUp column value rows, P row := by
  intro row hr
  exact fillDown_forall hset rows.reverse (fun r hm => h r (by simpa using hm)) row
    (by simpa [fillUp] using hr)

theorem RowComplete.lt_length {t : Template} {row : List Json} (h : RowComplete t row)
    {column : Nat} {d : Declaration} (hd : t.values[column]? = some d) : column < row.length := by
  rw [h.length]
  exact (List.getElem?_eq_some_iff.mp hd).1

theorem RowComplete.set {t : Template} {row : List Json} (h : RowComplete t row) (column : Nat)
    {value : Json} (hv : isEmptyCell (some value) = false) :
    RowComplete t (row.set column value) := by
  refine ⟨by simpa using h.length, fun cell hc => ?_, fun other d hd hr => ?_⟩
  · rcases List.mem_or_eq_of_mem_set hc with hm | he
    · exact h.notNull cell hm
    · rintro rfl
      rw [← he] at hv
      cases hv
  · by_cases he : column = other
    · subst he
      rw [List.getElem?_set_self (h.lt_length hd)]
      exact hv
    · rw [List.getElem?_set_ne he]
      exact h.required other d hd hr

/-! ## Every state of a run -/

/-- A capture fills its column up if it is a text other than "". -/
theorem Run.Follows.assign_rows {t : Template} (ht : t.OptionsNodup) {past : List Event} {run : Run}
    (h : run.Follows t past) {d : Declaration} {column : Nat} (hd : t.values[column]? = some d)
    (hf : d.has .fillup = true) (captured : Option String) :
    (run.assign d column captured).rows =
      match captured.filter (· != "") with
      | some text => fillUp column (.string text) run.rows
      | none => run.rows := by
  have hlt : column < run.cells.length := by
    rw [h.length]
    exact (List.getElem?_eq_some_iff.mp hd).1
  have hcurrent : ((run.cells.modify column (Cell.assign d captured))[column]?).bind (·.current) =
      captured.map .string := by
    simp [List.getElem?_eq_getElem hlt, Cell.assign_eq (ht d (List.mem_of_getElem? hd))]
  simp only [Run.assign, hcurrent, hf, Bool.true_and]
  cases captured with
  | none => rfl
  | some text =>
    by_cases he : text = ""
    · subst he
      rfl
    · simp [isEmptyCell, Option.filter, he]

section RowInvariant

variable {t : Template} {P : List Json → Prop}

/-- What holds of the rows so far, of the row that the past makes, and is kept when the event fills
a column up, holds of the rows after the event. -/
theorem Run.Follows.apply_rows_forall (ht : t.OptionsNodup) {past : List Event} {run : Run}
    {e : Event} (hfol : run.Follows t past)
    (hrecord : ∀ row, rowAt t.values past = some row → P row)
    (hfill : ∀ (column : Nat) (d : Declaration) (text : String) (row : List Json),
      e = .assign column (some text) → t.values[column]? = some d → d.has .fillup = true →
      text ≠ "" → P row → P (row.set column (.string text)))
    (h : ∀ row ∈ run.rows, P row) : ∀ row ∈ (run.apply t e).rows, P row := by
  cases e with
  | assign column captured =>
    cases hd : t.values[column]? with
    | none => simpa [Run.apply, hd] using h
    | some d =>
      simp only [Run.apply, hd]
      cases hf : d.has .fillup with
      | false =>
        rw [Run.assign_rows hf]
        exact h
      | true =>
        rw [hfol.assign_rows ht hd hf]
        split
        · rename_i text hc
          obtain ⟨rfl, hne⟩ := Option.filter_eq_some_iff.mp hc
          have hne : text ≠ "" := by simpa using hne
          have hset := fun row hrow => hfill column d text row rfl hd hf hne hrow
          exact fillUp_forall hset run.rows h
        · exact h
  | record =>
    intro row hr
    rw [Run.apply, (hfol.record ht).2] at hr
    rcases List.mem_append.mp hr with hm | hm
    · exact h row hm
    · exact hrecord row (Option.mem_toList.mp hm)
  | clear => exact h
  | clearAll => exact h

/-- What holds of every row that a record makes, and is kept when a column that fills up gets a
text, holds of all rows of a run. -/
theorem Run.Reachable.rows_forall (ht : t.OptionsNodup)
    (hrecord : ∀ past row, rowAt t.values past = some row → P row)
    (hfill : ∀ (column : Nat) (d : Declaration) (text : String) (row : List Json),
      t.values[column]? = some d → d.has .fillup = true → text ≠ "" → P row →
      P (row.set column (.string text)))
    {run : Run} (h : Reachable t run) :
    (∃ past, run.Follows t past) ∧ ∀ row ∈ run.rows, P row := by
  apply h.invariant
  · exact ⟨⟨[], Follows.start t⟩, by simp [Run.start]⟩
  · rintro run e ⟨⟨past, hfol⟩, hrows⟩
    exact ⟨⟨e :: past, hfol.apply ht e⟩, hfol.apply_rows_forall ht (hrecord past)
      (fun column d text row _ => hfill column d text row) hrows⟩
  · rintro run state ⟨⟨past, hfol⟩, hrows⟩
    exact ⟨⟨past, hfol.length, hfol.cell⟩, hrows⟩

/-- If all events are of one kind, rows need only be made from a past of such events, and columns
filled up by them. -/
theorem Run.Follows.play_rows_forall (ht : t.OptionsNodup) {Q : Event → Prop}
    (hrecord : ∀ past row, (∀ e ∈ past, Q e) → rowAt t.values past = some row → P row)
    (hfill : ∀ column text row, Q (.assign column (some text)) → P row →
      P (row.set column (.string text)))
    {events : List Event} (hevents : ∀ e ∈ events, Q e) :
    ∀ {past : List Event} {run : Run}, run.Follows t past → (∀ e ∈ past, Q e) →
      (∀ row ∈ run.rows, P row) → ∀ row ∈ (run.play t events).rows, P row := by
  induction events with
  | nil => exact fun _ _ h => h
  | cons e rest ih =>
    intro past run hfol hpast h
    obtain ⟨he, hrest⟩ := List.forall_mem_cons.mp hevents
    have happly := hfol.apply_rows_forall ht (fun row hrow => hrecord past row hpast hrow)
      (fun column _ text row hassign _ _ _ hrow => hfill column text row (hassign ▸ he) hrow) h
    exact ih hrest (hfol.apply ht e) (List.forall_mem_cons.mpr ⟨he, hpast⟩) happly

end RowInvariant

theorem Run.Reachable.rows_complete {t : Template} (ht : t.OptionsNodup) {run : Run}
    (h : Reachable t run) :
    (∃ past, run.Follows t past) ∧ ∀ row ∈ run.rows, RowComplete t row :=
  h.rows_forall ht (fun _ _ hrow => rowAt_complete hrow)
    fun column _ _ _ _ _ hne hrow => hrow.set column (isEmptyCell_string hne)

/-- **Rows are complete.** Of a template that compiles, every state that a run passes through has
complete rows, into which every column reaches; and so has every table. -/
theorem reachable_rows_complete {text : String} {t : Template}
    (h : Template.compile text = .ok t) :
    (∀ run, Run.Reachable t run → run.cells.length = t.values.length ∧
      ∀ row ∈ run.rows, RowComplete t row ∧
        ∀ (column : Nat) (d : Declaration), t.values[column]? = some d → column < row.length) ∧
    ∀ source table, t.parse source = .ok table → ∀ row ∈ table.rows, RowComplete t row := by
  have ht := compile_options_nodup h
  constructor
  · intro run hr
    obtain ⟨⟨past, hf⟩, hrows⟩ := hr.rows_complete ht
    exact ⟨hf.length, fun row hm => ⟨hrows row hm, fun _ _ hd => (hrows row hm).lt_length hd⟩⟩
  · intro source table hp
    obtain ⟨run, hr, rfl⟩ := Run.parse_reachable hp
    exact (hr.rows_complete ht).2

/-- `Required` comes before `List`, so the last port is tested and the list of ports recorded. -/
def requiredPorts : String :=
  "Value Fillup Vlan (\\d+)\nValue Required,List Port (\\S+)\n\nStart\n" ++
    "  ^port ${Port}\n  ^vlan ${Vlan}\n  ^! -> Record\n"

theorem reachable_rows_complete_requiredPorts :
    ∃ t run, Template.compile requiredPorts = .ok t ∧ Run.Reachable t run ∧
      run.rows.length = 2 ∧ ∀ row ∈ run.rows, RowComplete t row := by
  have hc : ∃ t, Template.compile requiredPorts = .ok t ∧
      (t.parse "port p1\nport p2\n!\nvlan 10\n!\nport p3\n").toOption.any
        (·.rows.length == 2) = true :=
    exists_compile (by decide +kernel)
  obtain ⟨t, h, hp⟩ := hc
  cases hs : t.parse "port p1\nport p2\n!\nvlan 10\n!\nport p3\n" with
  | error rejection => rw [hs] at hp; cases hp
  | ok table =>
    obtain ⟨run, hr, rfl⟩ := Run.parse_reachable hs
    rw [hs] at hp
    refine ⟨t, run, h, hr, eq_of_beq hp, fun row hm => ?_⟩
    exact (((reachable_rows_complete h).1 run hr).2 row hm).1

end TemplateBench.TextFsm
