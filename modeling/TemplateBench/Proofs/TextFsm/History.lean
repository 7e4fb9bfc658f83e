import TemplateBench.Proofs.TextFsm.Cell
import TemplateBench.Proofs.TextFsm.Compiled
import TemplateBench.Proofs.TextFsm.Trace

/-!
What a record holds, told from the events before it.

* `captures`: what a value has captured since it was last forgotten. A record and `Clear` make a
  value forget unless it fills down, and `Clearall` makes every value forget.
* `rowAt`: the row of a record, or none if a required value is empty or all values are unset.
* `Run.Follows`: the cells of a run are what its past tells, which every event keeps.
* `Follows.record`: so a record appends the row that its past tells, or none.
* `parse_eq_history`: without `Fillup`, the rows of a text are those that its trace tells.

A past has its latest event first.
-/
namespace TemplateBench.TextFsm
open Text

/-! ## The past of a value -/

/-- Events after which a value starts anew. -/
def Event.forgets (d : Declaration) : Event → Bool
  | .assign .. => false
  | .record => !d.has .filldown
  | .clear => !d.has .filldown
  | .clearAll => true

def Event.capture? (column : Nat) : Event → Option (Option String)
  | .assign c captured => if c = column then some captured else none
  | _ => none

/-- What the value in a column has captured since it was forgotten, the latest capture first. -/
def captures (d : Declaration) (column : Nat) (past : List Event) : List (Option String) :=
  (past.takeWhile (!·.forgets d)).filterMap (Event.capture? column)

/-- The text of the latest capture, if there is one and its group took part. -/
def lastCapture (d : Declaration) (column : Nat) (past : List Event) : Option String :=
  (captures d column past).head?.join

/-! ## The record of a past -/

/-- A required value that is empty refuses the record. -/
def refuses (d : Declaration) (column : Nat) (past : List Event) : Bool :=
  d.has .required &&
    if d.testsItems then (captures d column past).isEmpty
    else ((lastCapture d column past).getD "").isEmpty

/-- Nothing captured, which the empty text is not. -/
def isUnset (d : Declaration) (column : Nat) (past : List Event) : Bool :=
  if d.has .list then (captures d column past).isEmpty else (lastCapture d column past).isNone

def cellAt (d : Declaration) (column : Nat) (past : List Event) : Json :=
  if d.has .list then .array ((captures d column past).reverse.map (listItem d))
  else .string ((lastCapture d column past).getD "")

def rowAt (values : List Declaration) (past : List Event) : Option (List Json) :=
  let columns := values.zipIdx
  if columns.any (fun (d, column) => refuses d column past) ||
      columns.all (fun (d, column) => isUnset d column past) then none
  else some (columns.map fun (d, column) => cellAt d column past)

/-- The rows of the records among some events, which come after a past. -/
def rowsAfter (values : List Declaration) : List Event → List Event → List (List Json)
  | _, [] => []
  | past, .record :: rest => (rowAt values past).toList ++ rowsAfter values (.record :: past) rest
  | past, e :: rest => rowsAfter values (e :: past) rest

/-! ## Captures step by step -/

section Captures
variable (d : Declaration) (column : Nat) (past : List Event)

theorem captures_cons (e : Event) :
    captures d column (e :: past) =
      if e.forgets d then [] else (e.capture? column).toList ++ captures d column past := by
  unfold captures
  cases hf : e.forgets d with
  | true => simp [hf]
  | false => cases hc : e.capture? column <;> simp [hf, hc]

theorem captures_assign_self (captured : Option String) :
    captures d column (.assign column captured :: past) = captured :: captures d column past := by
  simp [captures_cons, Event.forgets, Event.capture?]

theorem captures_assign_other {other : Nat} (captured : Option String) (h : other ≠ column) :
    captures d column (.assign other captured :: past) = captures d column past := by
  simp [captures_cons, Event.forgets, Event.capture?, h]

theorem captures_record :
    captures d column (.record :: past) =
      if d.has .filldown then captures d column past else [] := by
  cases hf : d.has .filldown <;> simp [captures_cons, Event.forgets, Event.capture?, hf]

theorem captures_clear :
    captures d column (.clear :: past) =
      if d.has .filldown then captures d column past else [] := by
  cases hf : d.has .filldown <;> simp [captures_cons, Event.forgets, Event.capture?, hf]

theorem captures_clearAll : captures d column (.clearAll :: past) = [] := by
  simp [captures_cons, Event.forgets]

theorem lastCapture_assign_self (captured : Option String) :
    lastCapture d column (.assign column captured :: past) = captured := by
  simp [lastCapture, captures_assign_self]

end Captures

/-! ## Cells follow the past -/

/-- A cell is what the past of its value tells. A list that nothing was captured for may show its
empty array: a record that was not made leaves it there. -/
structure Cell.Follows (d : Declaration) (column : Nat) (past : List Event) (cell : Cell) :
    Prop where
  current : cell.current = (lastCapture d column past).map .string ∨
    d.has .list = true ∧ cell.current = some (.array []) ∧ captures d column past = []
  kept : d.has .filldown = true → cell.kept = (lastCapture d column past).map .string
  items : d.has .list = true → cell.items = (captures d column past).reverse.map (listItem d)

namespace Cell.Follows

variable {d : Declaration} {column : Nat} {past : List Event} {cell : Cell}

theorem empty (d : Declaration) (column : Nat) : Cell.Follows d column [] {} :=
  ⟨Or.inl rfl, fun _ => rfl, fun _ => rfl⟩

theorem assign_self (hd : d.options.Nodup) (h : cell.Follows d column past)
    (captured : Option String) :
    (cell.assign d captured).Follows d column (.assign column captured :: past) := by
  rw [assign_eq hd]
  refine ⟨Or.inl ?_, fun hf => ?_, fun hl => ?_⟩
  · rw [lastCapture_assign_self]
  · simp [hf, lastCapture_assign_self]
  · simp [hl, h.items hl, captures_assign_self]

theorem assign_other (h : cell.Follows d column past) {other : Nat} (captured : Option String)
    (hne : other ≠ column) : cell.Follows d column (.assign other captured :: past) := by
  have hc := captures_assign_other d column past captured hne
  have hl : lastCapture d column (.assign other captured :: past) = lastCapture d column past := by
    rw [lastCapture, hc, lastCapture]
  exact ⟨by rw [hl, hc]; exact h.current, by rw [hl]; exact h.kept, by rw [hc]; exact h.items⟩

/-- Forgetting a record. The current text does not matter, it is set anew. -/
theorem forget {e : Event} (h : cell.Follows d column past)
    (he : captures d column (e :: past) = if d.has .filldown then captures d column past else [])
    (current : Option Json) :
    (({ cell with current } : Cell).clear d).Follows d column (e :: past) := by
  rw [clear_eq]
  cases hf : d.has .filldown with
  | true =>
    have hl : lastCapture d column (e :: past) = lastCapture d column past := by
      rw [lastCapture, he, hf]; rfl
    refine ⟨Or.inl ?_, fun _ => ?_, fun hlist => ?_⟩
    · simpa [hl] using h.kept hf
    · simpa [hl] using h.kept hf
    · simpa [he, hf] using h.items hlist
  | false =>
    have hl : lastCapture d column (e :: past) = none := by
      rw [lastCapture, he, hf]; rfl
    refine ⟨Or.inl ?_, fun h' => ?_, fun hlist => ?_⟩
    · simp [hl]
    · rw [hf] at h'; cases h'
    · simp [he, hf, hlist]

theorem clearAll (_h : cell.Follows d column past) :
    (cell.clearAll d).Follows d column (.clearAll :: past) := by
  have hc := captures_clearAll d column past
  have hl : lastCapture d column (.clearAll :: past) = none := by rw [lastCapture, hc]; rfl
  rw [clearAll_eq]
  exact ⟨Or.inl (by simp [hl]), fun hf => by simp [hf, hl], fun hlist => by simp [hlist, hc]⟩

/-! ### What a record sees -/

theorem saved_current (h : cell.Follows d column past) :
    (cell.saved d).current =
      if d.has .list then some (.array ((captures d column past).reverse.map (listItem d)))
      else (lastCapture d column past).map .string := by
  unfold Cell.saved
  cases hl : d.has .list with
  | true => simp [h.items hl]
  | false =>
    rcases h.current with hc | ⟨hlist, _⟩
    · simpa using hc
    · rw [hl] at hlist; cases hlist

theorem rowCell_saved (h : cell.Follows d column past) :
    Run.rowCell (cell.saved d).current = cellAt d column past := by
  rw [h.saved_current, cellAt]
  cases d.has .list with
  | true => rfl
  | false => cases lastCapture d column past <;> rfl

theorem isVoid_saved (h : cell.Follows d column past) :
    Run.isVoid (cell.saved d).current = isUnset d column past := by
  rw [h.saved_current, isUnset]
  cases d.has .list with
  | true => simp [Run.isVoid]
  | false => cases lastCapture d column past <;> rfl

theorem refused_eq (h : cell.Follows d column past) :
    cell.refused d = refuses d column past := by
  unfold Cell.refused refuses
  cases ht : d.testsItems with
  | true => simp [h.items (Declaration.has_list_of_testsItems ht)]
  | false =>
    rcases h.current with hc | ⟨_, hc, hnil⟩
    · rw [hc]
      cases lastCapture d column past <;> rfl
    · simp [hc, hnil, lastCapture, isEmptyCell]

theorem lastCapture_of_isUnset (hu : isUnset d column past = true) :
    lastCapture d column past = none := by
  unfold isUnset at hu
  split at hu
  · rw [lastCapture, List.isEmpty_iff.mp hu]
    rfl
  · exact Option.isNone_iff_eq_none.mp hu

/-- A record that is not made because nothing is captured leaves its cells as saved. -/
theorem void (h : cell.Follows d column past) (hu : isUnset d column past = true) :
    (cell.saved d).Follows d column (.record :: past) := by
  have hlast := lastCapture_of_isUnset hu
  have hlast' : lastCapture d column (.record :: past) = none := by
    rw [lastCapture, captures_record]
    split
    · exact hlast
    · rfl
  have hnil : d.has .list = true → captures d column past = [] := by
    intro hl
    simpa [isUnset, hl] using hu
  have hnil' : d.has .list = true → captures d column (.record :: past) = [] := by
    intro hl
    rw [captures_record, hnil hl, ite_self]
  refine ⟨?_, fun hf => ?_, fun hl => ?_⟩
  · rw [h.saved_current, hlast', hlast]
    cases hl : d.has .list with
    | true => exact Or.inr ⟨rfl, by simp [hnil hl], hnil' hl⟩
    | false => exact Or.inl rfl
  · rw [hlast', ← hlast]
    exact h.kept hf
  · rw [hnil' hl, ← hnil hl]
    exact h.items hl

end Cell.Follows

/-! ## Runs follow the past -/

/-- Every cell of a run is what the past of its value tells. -/
structure Run.Follows (t : Template) (past : List Event) (run : Run) : Prop where
  length : run.cells.length = t.values.length
  cell : ∀ (column : Nat) (d : Declaration) (cell : Cell), t.values[column]? = some d →
    run.cells[column]? = some cell → cell.Follows d column past

/-- No value has an option twice. -/
def Template.OptionsNodup (t : Template) : Prop := ∀ d ∈ t.values, d.options.Nodup

namespace Run

theorem saveCells_eq (ds : List Declaration) (hd : ∀ d ∈ ds, d.options.Nodup)
    (cells : List Cell) :
    saveCells ds cells =
      if (List.zipWith Cell.refused ds cells).any id then none
      else some (List.zipWith Cell.saved ds cells) := by
  induction ds generalizing cells with
  | nil => rfl
  | cons d ds ih =>
    cases cells with
    | nil => rfl
    | cons cell cells =>
      rw [saveCells, Cell.save?_eq (hd d (by simp)), ih (fun d' h => hd d' (by simp [h]))]
      cases hr : cell.refused d with
      | true => simp [hr]
      | false =>
        cases ha : (List.zipWith Cell.refused ds cells).any id <;> simp [hr, ha]

/-- A record in terms of its cells: it may be refused, void, or made. -/
theorem record_eq {t : Template} (ht : t.OptionsNodup) (run : Run) :
    run.record t =
      if t.values.isEmpty then run
      else if (List.zipWith Cell.refused t.values run.cells).any id then run.clear t
      else if (List.zipWith (fun d cell => isVoid (cell.saved d).current) t.values
          run.cells).all id then
        { run with cells := List.zipWith Cell.saved t.values run.cells }
      else
        clear t { run with
          cells := List.zipWith Cell.saved t.values run.cells
          rows := run.rows ++
            [List.zipWith (fun d cell => rowCell (cell.saved d).current) t.values run.cells] } := by
  unfold record
  rw [saveCells_eq _ ht]
  split
  · rfl
  · cases (List.zipWith Cell.refused t.values run.cells).any id with
    | true => rfl
    | false =>
      simp only [Bool.false_eq_true, ↓reduceIte, List.map_zipWith]
      rw [← List.map_zipWith (f := isVoid) (g := fun d cell => (Cell.saved d cell).current),
        List.all_map]
      rfl

namespace Follows

variable {t : Template} {past : List Event} {run : Run}

theorem start (t : Template) : (start t).Follows t [] := by
  refine ⟨by simp [Run.start], fun column d cell hd hc => ?_⟩
  simp only [Run.start, List.getElem?_map, hd, Option.map_some, Option.some.injEq] at hc
  rw [← hc]
  exact Cell.Follows.empty d column

/-- What each cell shows can be read off the past of its value. -/
theorem zipWith_eq {β : Type} (h : run.Follows t past) (f : Declaration → Cell → β)
    (g : Declaration → Nat → β)
    (hfg : ∀ d column cell, cell.Follows d column past → f d cell = g d column) :
    List.zipWith f t.values run.cells = t.values.zipIdx.map fun (d, column) => g d column := by
  apply List.ext_getElem?
  intro column
  simp only [List.getElem?_zipWith, List.getElem?_map, List.getElem?_zipIdx]
  cases hd : t.values[column]? with
  | none => simp
  | some d =>
    have hlt : column < run.cells.length := by
      rw [h.length]
      exact (List.getElem?_eq_some_iff.mp hd).1
    have hc := List.getElem?_eq_getElem hlt
    simp [hc, hfg d column _ (h.cell column d _ hd hc)]

/-- Cells that change each by itself follow a longer past when each does. -/
theorem zipWith_follows {e : Event} (h : run.Follows t past) (f : Declaration → Cell → Cell)
    (hf : ∀ d column cell, t.values[column]? = some d → cell.Follows d column past →
      (f d cell).Follows d column (e :: past))
    (rows : List (List Json)) :
    ({ run with cells := List.zipWith f t.values run.cells, rows } : Run).Follows t
      (e :: past) := by
  refine ⟨by simp [h.length], fun column d cell hd hc => ?_⟩
  simp only [List.getElem?_zipWith, hd] at hc
  cases hcell : run.cells[column]? with
  | none => rw [hcell] at hc; cases hc
  | some old =>
    rw [hcell] at hc
    simp only [Option.some.injEq] at hc
    rw [← hc]
    exact hf d column old hd (h.cell column d old hd hcell)

theorem assign (ht : t.OptionsNodup) (h : run.Follows t past) {d : Declaration} {column : Nat}
    (hd : t.values[column]? = some d) (captured : Option String) :
    (run.assign d column captured).Follows t (.assign column captured :: past) := by
  have hcells := assign_cells d column captured run
  refine ⟨by rw [hcells, List.length_modify, h.length], fun other d' cell hd' hc => ?_⟩
  rw [hcells, List.getElem?_modify] at hc
  cases hold : run.cells[other]? with
  | none => simp [hold] at hc
  | some old =>
    have hfollows := h.cell other d' old hd' hold
    by_cases he : column = other
    · subst he
      obtain rfl : d = d' := by rw [hd] at hd'; exact Option.some.inj hd'
      obtain rfl : cell = old.assign d captured := by simpa [hold] using hc.symm
      exact hfollows.assign_self (ht d (List.mem_of_getElem? hd)) captured
    · obtain rfl : cell = old := by simpa [hold, he] using hc.symm
      exact hfollows.assign_other captured he

/-- Clearing cells, saved or not. -/
theorem clear_cells {e : Event} (h : run.Follows t past)
    (he : ∀ d column, captures d column (e :: past) =
      if d.has .filldown then captures d column past else [])
    (current : Declaration → Cell → Option Json) (rows : List (List Json)) :
    (Run.clear t { run with
      cells := List.zipWith (fun d cell => { cell with current := current d cell }) t.values
        run.cells
      rows }).Follows t (e :: past) := by
  have hcells : List.zipWith Cell.clear t.values
      (List.zipWith (fun d cell => { cell with current := current d cell }) t.values run.cells) =
      List.zipWith (fun d cell => ({ cell with current := current d cell } : Cell).clear d) t.values
        run.cells := by
    apply List.ext_getElem?
    intro i
    simp only [List.getElem?_zipWith]
    cases t.values[i]? <;> cases run.cells[i]? <;> rfl
  unfold Run.clear
  rw [hcells]
  exact h.zipWith_follows _ (fun d column cell _ hc => hc.forget (he d column) _) rows

/-- A record appends the row that its past tells, or none. -/
theorem record (ht : t.OptionsNodup) (h : run.Follows t past) :
    (run.record t).Follows t (.record :: past) ∧
      (run.record t).rows = run.rows ++ (rowAt t.values past).toList := by
  have hforget := fun d column => captures_record d column past
  have hrefused := h.zipWith_eq Cell.refused (refuses · · past) fun _ _ _ hc => hc.refused_eq
  have hvoid := h.zipWith_eq (fun d cell => isVoid (cell.saved d).current) (isUnset · · past)
    fun _ _ _ hc => hc.isVoid_saved
  have hrow := h.zipWith_eq (fun d cell => rowCell (cell.saved d).current) (cellAt · · past)
    fun _ _ _ hc => hc.rowCell_saved
  rw [record_eq ht, hrefused, hvoid, hrow, rowAt, List.any_map, List.all_map]
  simp only [Function.comp_def, id_eq]
  split
  · rename_i hempty
    have hnil : t.values = [] := List.isEmpty_iff.mp hempty
    exact ⟨⟨h.length, by simp [hnil]⟩, by simp [hnil]⟩
  · split
    · rename_i hany
      refine ⟨?_, by simp [hany, Run.clear]⟩
      exact h.zipWith_follows _ (fun d column cell _ hc => hc.forget (hforget d column) _) _
    · split
      · rename_i hany hall
        refine ⟨?_, by simp [hall]⟩
        apply h.zipWith_follows
        intro d column cell hd hc
        have hmem : (d, column) ∈ t.values.zipIdx := List.mk_mem_zipIdx_iff_getElem?.mpr hd
        exact hc.void (List.all_eq_true.mp hall (d, column) hmem)
      · rename_i hany hall
        refine ⟨h.clear_cells hforget _ _, by simp [hany, hall, Run.clear]⟩

theorem apply (ht : t.OptionsNodup) (h : run.Follows t past) (e : Event) :
    (run.apply t e).Follows t (e :: past) := by
  cases e with
  | assign column captured =>
    cases hd : t.values[column]? with
    | some d => simpa [Run.apply, hd] using h.assign ht hd captured
    | none =>
      have hlen : t.values.length ≤ column := List.getElem?_eq_none_iff.mp hd
      simp only [Run.apply, hd]
      refine ⟨h.length, fun other d cell hd' hc => ?_⟩
      have hlt : other < t.values.length := (List.getElem?_eq_some_iff.mp hd').1
      exact (h.cell other d cell hd' hc).assign_other captured (by omega)
  | record => exact (h.record ht).1
  | clear =>
    exact h.zipWith_follows _
      (fun d column cell _ hc => hc.forget (captures_clear d column past) _) _
  | clearAll => exact h.zipWith_follows _ (fun d column cell _ hc => hc.clearAll) _

theorem play (ht : t.OptionsNodup) (h : run.Follows t past) (events : List Event) :
    (run.play t events).Follows t (events.reverse ++ past) := by
  induction events generalizing run past with
  | nil => exact h
  | cons e rest ih => simpa [Run.play] using ih (h.apply ht e)

end Follows

/-! ## Rows without `Fillup` -/

theorem assign_rows {d : Declaration} (hd : d.has .fillup = false) (column : Nat)
    (captured : Option String) (run : Run) : (run.assign d column captured).rows = run.rows := by
  simp [assign, hd]

theorem apply_rows {t : Template} (hf : ∀ d ∈ t.values, d.has .fillup = false) (run : Run)
    {e : Event} (he : e ≠ .record) : (run.apply t e).rows = run.rows := by
  cases e with
  | assign column captured =>
    cases hd : t.values[column]? with
    | none => simp [apply, hd]
    | some d => simpa [apply, hd] using assign_rows (hf d (List.mem_of_getElem? hd)) _ _ _
  | record => exact absurd rfl he
  | clear => rfl
  | clearAll => rfl

theorem play_rows {t : Template} (ht : t.OptionsNodup)
    (hf : ∀ d ∈ t.values, d.has .fillup = false) (events : List Event) {past : List Event}
    {run : Run} (h : run.Follows t past) :
    (run.play t events).rows = run.rows ++ rowsAfter t.values past events := by
  induction events generalizing run past with
  | nil => simp [play, rowsAfter]
  | cons e rest ih =>
    have hplay : (run.play t (e :: rest)).rows = _ := ih (h.apply ht e)
    rw [hplay]
    cases e with
    | record =>
      rw [rowsAfter, ← List.append_assoc, ← (h.record ht).2]
      rfl
    | assign column captured => rw [apply_rows hf run (by simp)]; rfl
    | clear => rfl
    | clearAll => rfl

end Run

/-- **Rows tell the history.** Without `Fillup`, a template that compiles makes of a text the rows
of the records in its trace: one for each that is neither refused nor empty, with what every value
has captured since it was last forgotten. -/
theorem parse_eq_history {text : String} {t : Template} (h : Template.compile text = .ok t)
    (hf : ∀ d ∈ t.values, d.has .fillup = false) (source : String) :
    t.parse source =
      (t.trace source).result.map fun _ =>
        ⟨t.header, rowsAfter t.values [] (t.trace source).events⟩ := by
  have hrows := Run.play_rows (compile_options_nodup h) hf (t.trace source).events
    (Run.Follows.start t)
  rw [parse_eq_play, hrows]
  rfl

/-- The host fills down until `wipe` clears everything, and ports are listed until `!`. -/
def hostPorts : String :=
  "Value Filldown Host (\\S+)\nValue List Port (\\S+)\n\nStart\n" ++
    "  ^host ${Host}\n  ^port ${Port}\n  ^! -> Record\n  ^wipe -> Clearall\n"

def hostPortsInput : String := "host h1\nport p1\nport p2\n!\nport p3\n!\nwipe\nport p4\n"

theorem parse_eq_history_hostPorts :
    ∃ t, Template.compile hostPorts = .ok t ∧ (∀ d ∈ t.values, d.has .fillup = false) ∧
      t.parse hostPortsInput =
        .ok ⟨["Host", "Port"], [[.string "h1", .array [.string "p1", .string "p2"]],
          [.string "h1", .array [.string "p3"]], [.string "", .array [.string "p4"]]]⟩ := by
  have hc : ∃ t, Template.compile hostPorts = .ok t ∧
      t.values = [⟨"Host", [.filldown], "(\\S+)", "(?P<Host>\\S+)", none⟩,
        ⟨"Port", [.list], "(\\S+)", "(?P<Port>\\S+)", none⟩] ∧
      (t.trace hostPortsInput).events =
        [.assign 0 (some "h1"), .assign 1 (some "p1"), .assign 1 (some "p2"), .record,
          .assign 1 (some "p3"), .record, .clearAll, .assign 1 (some "p4"), .record] ∧
      (t.trace hostPortsInput).result.isOk = true :=
    exists_compile (by decide +kernel)
  obtain ⟨t, h, hv, he, hr⟩ := hc
  have hf : ∀ d ∈ t.values, d.has .fillup = false := by
    rw [hv]
    decide
  refine ⟨t, h, hf, ?_⟩
  rw [parse_eq_history h hf, he, Template.header, hv]
  cases hs : (t.trace hostPortsInput).result with
  | error rejection => rw [hs] at hr; cases hr
  | ok state => rfl

end TemplateBench.TextFsm
