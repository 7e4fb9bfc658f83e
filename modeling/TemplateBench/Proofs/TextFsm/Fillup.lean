import TemplateBench.Proofs.TextFsm.Backfill
import TemplateBench.Proofs.TextFsm.Rows
import TemplateBench.Proofs.TextFsm.WithoutFillup

/-!
What `Fillup` does to a column.

* `Backfills`: a run and the same run without `Fillup` in one column, side by side. The one is the
  other with its empty cells of that column filled by the first text of their futures, and the
  cells still empty come last.
* `Backfills.apply`: every event keeps this.
* `parse_fillup`: so tables differ in that column only, and only so (`FilledUp`).
-/
namespace TemplateBench.TextFsm
open Text

/-! ## Side by side -/

/-- A run and the same run with `Fillup` taken from one column. -/
structure Backfills (d : Declaration) (column : Nat) (past : List Event)
    (futures : List (List Event)) (plain filled : Run) : Prop where
  cells : filled.cells = plain.cells
  length : futures.length = plain.rows.length
  rows : filled.rows = List.zipWith (backfill column) futures plain.rows
  text : ∀ row ∈ plain.rows, ∃ text, row[column]? = some (.string text)
  /-- The empty cells of the column come last. -/
  trailing : (filled.rows.map (·[column]?)).Pairwise fun earlier later =>
    isEmptyCell earlier = true → isEmptyCell later = true
  /-- While there are some, the value has no text. -/
  unfilled : (∃ cell ∈ filled.rows.map (·[column]?), isEmptyCell cell = true) →
    (lastCapture d column past).getD "" = ""

/-- Without a new capture a value without text stays so. -/
theorem lastCapture_eq_empty {d : Declaration} {column : Nat} {past : List Event} {e : Event}
    (he : e.capture? column = none) (h : (lastCapture d column past).getD "" = "") :
    (lastCapture d column (e :: past)).getD "" = "" := by
  rw [lastCapture, captures_cons, he]
  split
  · rfl
  · exact h

namespace Backfills

variable {t : Template} {d : Declaration} {column : Nat} {past : List Event}
  {futures : List (List Event)} {plain filled : Run}

theorem lt_length (h : Backfills d column past futures plain filled) :
    ∀ row ∈ filled.rows, column < row.length := by
  rw [h.rows]
  intro row hrow
  obtain ⟨i, hi, rfl⟩ := List.mem_iff_getElem.mp hrow
  have hlt : i < plain.rows.length := by
    rw [List.length_zipWith] at hi
    omega
  obtain ⟨text, htext⟩ := h.text _ (List.getElem_mem hlt)
  rw [List.getElem_zipWith, length_backfill]
  exact (List.getElem?_eq_some_iff.mp htext).1

/-- Events that capture no text for the column and make no row. -/
theorem quiet (h : Backfills d column past futures plain filled) {e : Event}
    (he : e.text? column = none)
    (hlast : (lastCapture d column past).getD "" = "" →
      (lastCapture d column (e :: past)).getD "" = "")
    {plain' filled' : Run} (hcells : filled'.cells = plain'.cells)
    (hplain : plain'.rows = plain.rows) (hfilled : filled'.rows = filled.rows) :
    Backfills d column (e :: past) (futures.map (· ++ [e])) plain' filled' where
  cells := hcells
  length := by simp [hplain, h.length]
  rows := by
    rw [hfilled, hplain, h.rows, List.zipWith_map_left]
    simp only [backfill_of_text?_eq_none he]
  text := by rw [hplain]; exact h.text
  trailing := by rw [hfilled]; exact h.trailing
  unfilled := by rw [hfilled]; exact fun hopen => hlast (h.unfilled hopen)

/-- Filling up another column. -/
theorem fill_other (h : Backfills d column past futures plain filled) {other : Nat}
    (hne : other ≠ column) (value : Json) :
    Backfills d column past futures { plain with rows := fillUp other value plain.rows }
      { filled with rows := fillUp other value filled.rows } where
  cells := h.cells
  length := by simp [fillUp, length_fillDown, h.length]
  rows := by rw [h.rows, fillUp_zipWith_backfill hne value futures plain.rows h.length]
  text := by
    apply fillUp_forall _ plain.rows h.text
    rintro row ⟨text, hrow⟩
    exact ⟨text, by rw [List.getElem?_set_ne hne, hrow]⟩
  trailing := by rw [map_getElem?_fillUp hne]; exact h.trailing
  unfilled := by rw [map_getElem?_fillUp hne]; exact h.unfilled

/-- A row that both record. -/
theorem append_row (h : Backfills d column past futures plain filled) {row : List Json}
    {text : String} (hrow : row[column]? = some (.string text))
    (hlast : (∃ cell ∈ filled.rows.map (·[column]?), isEmptyCell cell = true) → text = "")
    (hnow : text = "" → (lastCapture d column past).getD "" = "")
    {plain' filled' : Run} (hcells : filled'.cells = plain'.cells)
    (hplain : plain'.rows = plain.rows ++ [row]) (hfilled : filled'.rows = filled.rows ++ [row]) :
    Backfills d column past (futures ++ [[]]) plain' filled' where
  cells := hcells
  length := by simp [hplain, h.length]
  rows := by
    rw [hfilled, hplain, List.zipWith_append h.length, h.rows]
    rfl
  text := by
    rw [hplain]
    intro r hr
    rcases List.mem_append.mp hr with hm | hm
    · exact h.text r hm
    · rw [List.mem_singleton.mp hm]
      exact ⟨text, hrow⟩
  trailing := by
    rw [hfilled, List.map_append, List.pairwise_append]
    refine ⟨h.trailing, List.pairwise_singleton _ _, fun earlier he later hl hempty => ?_⟩
    simp only [List.map_cons, List.map_nil, List.mem_singleton] at hl
    rw [hl, hrow, hlast ⟨earlier, he, hempty⟩]
    rfl
  unfilled := by
    rintro ⟨cell, hc, hempty⟩
    rw [hfilled, List.map_append] at hc
    rcases List.mem_append.mp hc with hm | hm
    · exact h.unfilled ⟨cell, hm, hempty⟩
    · simp only [List.map_cons, List.map_nil, List.mem_singleton] at hm
      rw [hm, hrow] at hempty
      exact hnow (by simpa [isEmptyCell] using hempty)

/-! ### Captures -/

theorem assign_self (ht : t.OptionsNodup) (hfol : filled.Follows t past)
    (hd : t.values[column]? = some d) (hf : d.has .fillup = true)
    (h : Backfills d column past futures plain filled) (captured : Option String) :
    Backfills d column (.assign column captured :: past)
      (futures.map (· ++ [.assign column captured]))
      (plain.assign d.withoutFillup column captured) (filled.assign d column captured) := by
  have hcells : (filled.assign d column captured).cells =
      (plain.assign d.withoutFillup column captured).cells := by
    rw [Run.assign_cells, Run.assign_cells, h.cells,
      funext (Cell.assign_withoutFillup d captured)]
  have hplain : (plain.assign d.withoutFillup column captured).rows = plain.rows :=
    Run.assign_rows d.has_fillup_withoutFillup column captured plain
  have hfilled := hfol.assign_rows ht hd hf captured
  have htext : (Event.assign column captured).text? column = captured.filter (· != "") := by
    simp [Event.text?, Event.capture?]
  cases hc : captured.filter (· != "") with
  | none =>
    rw [hc] at hfilled htext
    refine h.quiet htext (fun _ => ?_) hcells hplain hfilled
    rw [lastCapture_assign_self]
    cases captured with
    | none => rfl
    | some text => simpa [Option.filter] using hc
  | some text =>
    rw [hc] at hfilled htext
    have hne : isEmptyCell (some (.string text)) = false :=
      isEmptyCell_string (by simpa using (Option.filter_eq_some_iff.mp hc).2)
    have hmap := hfilled.trans (fillUp_eq_map column (.string text) filled.rows h.trailing)
    -- every cell of the column has a text now
    have hfull : ∀ cell ∈ (filled.assign d column captured).rows.map (·[column]?),
        isEmptyCell cell = false := by
      rw [hmap, List.map_map]
      intro cell hm
      obtain ⟨row, hrow, rfl⟩ := List.mem_map.mp hm
      have hlt := h.lt_length row hrow
      cases hr : isEmptyCell row[column]? with
      | true =>
        simp only [Function.comp, hr, ↓reduceIte, List.getElem?_set_self hlt, hne]
      | false => simp [hr]
    refine ⟨hcells, by simp [hplain, h.length], ?_, by rw [hplain]; exact h.text, ?_, ?_⟩
    · rw [hmap, hplain, h.rows, List.map_zipWith, List.zipWith_map_left]
      apply List.ext_getElem?
      intro i
      rw [List.getElem?_zipWith, List.getElem?_zipWith]
      cases futures[i]? with
      | none => rfl
      | some future =>
        cases hrow : plain.rows[i]? with
        | none => rfl
        | some row =>
          obtain ⟨old, hold⟩ := h.text row (List.mem_of_getElem? hrow)
          have hlt := (List.getElem?_eq_some_iff.mp hold).1
          simp only [backfill_of_text? htext future row hlt]
    · apply List.pairwise_of_forall_mem_list
      intro earlier he later _ hempty
      rw [hfull earlier he] at hempty
      cases hempty
    · rintro ⟨cell, hm, hempty⟩
      rw [hfull cell hm] at hempty
      cases hempty

theorem follows_plain (h : Backfills d column past futures plain filled)
    (hfol : filled.Follows t past) : plain.Follows t past :=
  ⟨by rw [← h.cells]; exact hfol.length, by rw [← h.cells]; exact hfol.cell⟩

theorem assign_other (ht : t.OptionsNodup) (hfol : filled.Follows t past) {other : Nat}
    (hne : other ≠ column) {d' : Declaration} (hd : t.values[other]? = some d')
    (h : Backfills d column past futures plain filled) (captured : Option String) :
    Backfills d column (.assign other captured :: past)
      (futures.map (· ++ [.assign other captured]))
      (plain.assign d' other captured) (filled.assign d' other captured) := by
  have hcapture : (Event.assign other captured).capture? column = none := by
    simp [Event.capture?, hne]
  have htext : (Event.assign other captured).text? column = none := by
    simp [Event.text?, hcapture]
  have hlast : (lastCapture d column past).getD "" = "" →
      (lastCapture d column (.assign other captured :: past)).getD "" = "" :=
    lastCapture_eq_empty hcapture
  have hcells : (filled.assign d' other captured).cells =
      (plain.assign d' other captured).cells := by
    rw [Run.assign_cells, Run.assign_cells, h.cells]
  cases hf : d'.has .fillup with
  | false =>
    exact h.quiet htext hlast hcells (Run.assign_rows hf other captured plain)
      (Run.assign_rows hf other captured filled)
  | true =>
    have hplain := (h.follows_plain hfol).assign_rows ht hd hf captured
    have hfilled := hfol.assign_rows ht hd hf captured
    cases hc : captured.filter (· != "") with
    | none =>
      rw [hc] at hplain hfilled
      exact h.quiet htext hlast hcells hplain hfilled
    | some text =>
      rw [hc] at hplain hfilled
      exact (h.fill_other hne (.string text)).quiet htext hlast hcells hplain hfilled

/-! ### Records -/

theorem record (ht : t.OptionsNodup) (hfol : filled.Follows t past)
    (hd : t.values[column]? = some d) (hl : d.has .list = false)
    (h : Backfills d column past futures plain filled) :
    ∃ more, Backfills d column (.record :: past) (futures.map (· ++ [.record]) ++ more)
      (plain.record t) (filled.record t) ∧ (more = [] ∨ more = [[]]) := by
  have hcells : (filled.record t).cells = (plain.record t).cells := by
    rw [Run.record_eq ht, Run.record_eq ht, h.cells]
    split
    · exact h.cells
    · split
      · simp only [Run.clear, h.cells]
      · split <;> rfl
  have hplain := ((h.follows_plain hfol).record ht).2
  have hfilled := (hfol.record ht).2
  have hlast : (lastCapture d column past).getD "" = "" →
      (lastCapture d column (.record :: past)).getD "" = "" := lastCapture_eq_empty rfl
  cases hr : rowAt t.values past with
  | none =>
    rw [hr, Option.toList_none, List.append_nil] at hplain hfilled
    refine ⟨[], ?_, Or.inl rfl⟩
    rw [List.append_nil]
    exact h.quiet rfl hlast hcells hplain hfilled
  | some row =>
    rw [hr] at hplain hfilled
    have hrow : row[column]? = some (.string ((lastCapture d column past).getD "")) := by
      simp only [rowAt, Option.ite_none_left_eq_some, Option.some.injEq] at hr
      rw [← hr.2]
      simp [List.getElem?_zipIdx, hd, cellAt, hl]
    have hquiet := h.quiet (e := .record) rfl hlast h.cells rfl rfl
    exact ⟨[[]], hquiet.append_row hrow h.unfilled hlast hcells hplain hfilled, Or.inr rfl⟩

/-! ### Runs -/

/-- One event. -/
theorem apply (ht : t.OptionsNodup) (hfol : filled.Follows t past)
    (hd : t.values[column]? = some d) (hf : d.has .fillup = true) (hl : d.has .list = false)
    (h : Backfills d column past futures plain filled) (e : Event) :
    Backfills d column (e :: past)
      (futures.map (· ++ [e]) ++ if plain.appends (t.withoutFillup column) e then [[]] else [])
      (plain.apply (t.withoutFillup column) e) (filled.apply t e) := by
  -- the count of futures tells whether a row was appended
  suffices hmore : ∃ more, Backfills d column (e :: past) (futures.map (· ++ [e]) ++ more)
      (plain.apply (t.withoutFillup column) e) (filled.apply t e) ∧ (more = [] ∨ more = [[]]) by
    obtain ⟨more, hb, hm⟩ := hmore
    have hlen := hb.length
    rw [List.length_append, List.length_map, h.length] at hlen
    rcases hm with rfl | rfl
    · have hsame : plain.appends (t.withoutFillup column) e = false := by
        simp only [List.length_nil, Nat.add_zero] at hlen
        simp [Run.appends, ← hlen]
      simpa [hsame] using hb
    · have hgrows : plain.appends (t.withoutFillup column) e = true := by
        simp [Run.appends, ← hlen]
      simpa [hgrows] using hb
  cases e with
  | assign other captured =>
    refine ⟨[], ?_, Or.inl rfl⟩
    rw [List.append_nil]
    simp only [Run.apply, values_withoutFillup]
    by_cases hc : column = other
    · subst hc
      simp only [↓reduceIte, hd, Option.map_some]
      exact assign_self ht hfol hd hf h captured
    · have hne : other ≠ column := fun he => hc he.symm
      cases hd' : t.values[other]? with
      | none =>
        have hcapture : (Event.assign other captured).capture? column = none := by
          simp [Event.capture?, hne]
        simp only [hc, ↓reduceIte]
        exact h.quiet (by simp [Event.text?, hcapture]) (lastCapture_eq_empty hcapture) h.cells
          rfl rfl
      | some d' =>
        simp only [hc, ↓reduceIte]
        exact assign_other ht hfol hne hd' h captured
  | record =>
    simp only [Run.apply, record_withoutFillup]
    exact record ht hfol hd hl h
  | clear =>
    refine ⟨[], ?_, Or.inl rfl⟩
    simp only [Run.apply, clear_withoutFillup, List.append_nil]
    exact h.quiet rfl (lastCapture_eq_empty rfl) (by simp [Run.clear, h.cells]) rfl rfl
  | clearAll =>
    refine ⟨[], ?_, Or.inl rfl⟩
    simp only [Run.apply, clearAll_withoutFillup, List.append_nil]
    exact h.quiet rfl (lastCapture_eq_empty rfl) (by simp [Run.clearAll, h.cells]) rfl rfl

theorem play (ht : t.OptionsNodup) (hfol : filled.Follows t past)
    (hd : t.values[column]? = some d) (hf : d.has .fillup = true) (hl : d.has .list = false)
    (h : Backfills d column past futures plain filled) (events : List Event) :
    Backfills d column (events.reverse ++ past)
      (futures.map (· ++ events) ++ plain.futures (t.withoutFillup column) events)
      (plain.play (t.withoutFillup column) events) (filled.play t events) := by
  induction events generalizing past futures plain filled with
  | nil => simpa [Run.futures, Run.play] using h
  | cons e rest ih =>
    have hstep := ih (hfol.apply ht e) (h.apply ht hfol hd hf hl e)
    have hfutures : (futures.map (· ++ [e]) ++
          if plain.appends (t.withoutFillup column) e then [[]] else []).map (· ++ rest) ++
        (plain.apply (t.withoutFillup column) e).futures (t.withoutFillup column) rest =
        futures.map (· ++ e :: rest) ++ plain.futures (t.withoutFillup column) (e :: rest) := by
      rw [Run.futures, List.map_append, List.map_map, List.append_assoc]
      cases plain.appends (t.withoutFillup column) e <;> simp [Function.comp_def]
    rw [hfutures] at hstep
    simpa [Run.play] using hstep

theorem start (t : Template) (d : Declaration) (column : Nat) :
    Backfills d column [] [] (Run.start (t.withoutFillup column)) (Run.start t) where
  cells := (map_values_withoutFillup t column _ fun _ => rfl).symm
  length := rfl
  rows := rfl
  text := by simp [Run.start]
  trailing := List.Pairwise.nil
  unfilled := fun _ => rfl

end Backfills

/-! ## Tables -/

/-- What `Fillup` in one column makes of a table, given the future of each row. -/
structure FilledUp (column : Nat) (futures : List (List Event)) (plain filled : Table) :
    Prop where
  header : filled.header = plain.header
  count : filled.rows.length = plain.rows.length
  each : futures.length = plain.rows.length
  others : ∀ (i other : Nat) (before after : List Json), plain.rows[i]? = some before →
    filled.rows[i]? = some after → other ≠ column → after[other]? = before[other]?
  kept : ∀ (i : Nat) (before after : List Json), plain.rows[i]? = some before →
    filled.rows[i]? = some after → isEmptyCell before[column]? = false →
    after[column]? = before[column]?
  told : ∀ (i : Nat) (future : List Event) (before after : List Json),
    futures[i]? = some future → plain.rows[i]? = some before → filled.rows[i]? = some after →
    isEmptyCell before[column]? = true →
    after[column]? = some (.string ((firstText column future).getD ""))
  trailing : ∀ (i j : Nat) (earlier later : List Json), i < j → filled.rows[i]? = some earlier →
    filled.rows[j]? = some later → isEmptyCell earlier[column]? = true →
    isEmptyCell later[column]? = true

theorem Backfills.filledUp {d : Declaration} {column : Nat} {past : List Event}
    {futures : List (List Event)} {plain filled : Run}
    (h : Backfills d column past futures plain filled) (header : List String) :
    FilledUp column futures ⟨header, plain.rows⟩ ⟨header, filled.rows⟩ := by
  have hcount : filled.rows.length = plain.rows.length := by
    rw [h.rows, List.length_zipWith, h.length, Nat.min_self]
  have hrow : ∀ (i : Nat) (before after : List Json), plain.rows[i]? = some before →
      filled.rows[i]? = some after →
      ∃ future, futures[i]? = some future ∧ after = backfill column future before := by
    intro i before after hb ha
    rw [h.rows, List.getElem?_zipWith, hb] at ha
    cases hf : futures[i]? with
    | none => rw [hf] at ha; cases ha
    | some future =>
      rw [hf] at ha
      exact ⟨future, rfl, (Option.some.inj ha).symm⟩
  refine ⟨rfl, hcount, h.length, ?_, ?_, ?_, ?_⟩
  · intro i other before after hb ha hne
    obtain ⟨future, _, rfl⟩ := hrow i before after hb ha
    exact backfill_getElem?_ne hne future before
  · intro i before after hb ha hfull
    obtain ⟨future, _, rfl⟩ := hrow i before after hb ha
    rw [backfill_of_not_empty hfull]
  · intro i future before after hf hb ha hempty
    obtain ⟨future', hf', rfl⟩ := hrow i before after hb ha
    obtain rfl : future = future' := Option.some.inj (hf.symm.trans hf')
    obtain ⟨text, htext⟩ := h.text before (List.mem_of_getElem? hb)
    exact backfill_getElem?_self htext hempty future
  · intro i j earlier later hij he hl hempty
    have hpair := List.pairwise_iff_getElem.mp h.trailing i j
      (by simpa using (List.getElem?_eq_some_iff.mp he).1)
      (by simpa using (List.getElem?_eq_some_iff.mp hl).1) hij
    obtain ⟨_, rfl⟩ := List.getElem?_eq_some_iff.mp he
    obtain ⟨_, rfl⟩ := List.getElem?_eq_some_iff.mp hl
    simp only [List.getElem_map] at hpair
    exact hpair hempty

/-- **`Fillup` fills empty cells from what comes after, and does nothing else.** Without it, a
template refuses the same texts and makes as many rows, which differ in its column only: there a
cell that is empty becomes the first text other than "" that its value captures after the row. -/
theorem parse_fillup {text : String} {t : Template} (h : Template.compile text = .ok t)
    {column : Nat} {d : Declaration} (hd : t.values[column]? = some d)
    (hf : d.has .fillup = true) (hl : d.has .list = false) (source : String) :
    (∃ rejection, t.parse source = .error rejection ∧
      (t.withoutFillup column).parse source = .error rejection) ∨
    ∃ filled plain, t.parse source = .ok filled ∧
      (t.withoutFillup column).parse source = .ok plain ∧
      FilledUp column ((Run.start (t.withoutFillup column)).futures (t.withoutFillup column)
        (t.trace source).events) plain filled := by
  have hplay := (Backfills.start t d column).play (compile_options_nodup h) (Run.Follows.start t)
    hd hf hl (t.trace source).events
  rw [parse_eq_play, parse_eq_play, trace_withoutFillup, header_withoutFillup]
  cases (t.trace source).result with
  | error rejection => exact Or.inl ⟨rejection, rfl, rfl⟩
  | ok state =>
    refine Or.inr ⟨_, _, rfl, rfl, ?_⟩
    exact hplay.filledUp t.header

def fillupVlan : String :=
  "Value Port (\\S+)\nValue Fillup Vlan (\\d+)\n\nStart\n  ^port ${Port} -> Record\n" ++
    "  ^vlan ${Vlan}\n"

/-- The capture of the last line is in the futures of the rows of both ports. -/
theorem parse_fillup_vlan :
    ∃ t d filled plain, Template.compile fillupVlan = .ok t ∧
      t.values[1]? = some d ∧ d.has .fillup = true ∧ d.has .list = false ∧
      t.parse "port a\nport b\nvlan 10\n" = .ok filled ∧
      (t.withoutFillup 1).parse "port a\nport b\nvlan 10\n" = .ok plain ∧
      FilledUp 1 [[.assign 0 (some "b"), .record, .assign 1 (some "10"), .record],
        [.assign 1 (some "10"), .record], []] plain filled := by
  have hc : ∃ t, Template.compile fillupVlan = .ok t ∧
      t.values[1]? = some ⟨"Vlan", [.fillup], "(\\d+)", "(?P<Vlan>\\d+)", none⟩ ∧
      (t.parse "port a\nport b\nvlan 10\n").isOk = true ∧
      (Run.start (t.withoutFillup 1)).futures (t.withoutFillup 1)
          (t.trace "port a\nport b\nvlan 10\n").events =
        [[.assign 0 (some "b"), .record, .assign 1 (some "10"), .record],
          [.assign 1 (some "10"), .record], []] :=
    exists_compile (by decide +kernel)
  obtain ⟨t, h, hd, hok, hfutures⟩ := hc
  rcases parse_fillup h hd rfl rfl "port a\nport b\nvlan 10\n" with
    ⟨rejection, hr, _⟩ | ⟨filled, plain, hp, hp0, hfilled⟩
  · rw [hr] at hok
    cases hok
  · rw [hfutures] at hfilled
    exact ⟨t, _, filled, plain, h, hd, rfl, rfl, hp, hp0, hfilled⟩

end TemplateBench.TextFsm
