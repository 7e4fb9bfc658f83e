import TemplateBench.Proofs.TextFsm.Alike
import TemplateBench.Proofs.TextFsm.History

/-!
A template with `Fillup` taken from one of its values.

* `has_withoutFillup`: the value keeps its other options.
* `trace_withoutFillup`: it reads every text in the same way.
* `record_withoutFillup`, `clear_withoutFillup`, `clearAll_withoutFillup`: it records and forgets in
  the same way.
* So the two can only differ where a capture is assigned, and there in what is filled up.
-/
namespace TemplateBench.TextFsm
open Text

def Declaration.withoutFillup (d : Declaration) : Declaration :=
  { d with options := d.options.filter (· != .fillup) }

/-- The template with `Fillup` taken from the value in a column. -/
def Template.withoutFillup (t : Template) (column : Nat) : Template :=
  { t with values := t.values.modify column Declaration.withoutFillup }

/-! ## The value -/

namespace Declaration

theorem has_withoutFillup (d : Declaration) {option : ValueOption} (h : option ≠ .fillup) :
    d.withoutFillup.has option = d.has option := by
  rw [Bool.eq_iff_iff, has_iff, has_iff]
  simp [withoutFillup, h]

theorem has_fillup_withoutFillup (d : Declaration) : d.withoutFillup.has .fillup = false := by
  rw [Bool.eq_false_iff]
  intro h
  rw [has_iff] at h
  simp [withoutFillup] at h

end Declaration

namespace Cell

/-! No operation of a cell looks at `Fillup`. -/

theorem assign_withoutFillup (d : Declaration) (captured : Option String) (cell : Cell) :
    cell.assign d.withoutFillup captured = cell.assign d captured := by
  simp only [assign, Declaration.withoutFillup, List.foldl_filter]
  congr 1
  funext cell option
  cases option <;> rfl

theorem clear_withoutFillup (d : Declaration) (cell : Cell) :
    cell.clear d.withoutFillup = cell.clear d := by
  have hf : d.withoutFillup.has .filldown = d.has .filldown := d.has_withoutFillup (by simp)
  simp only [clear, Declaration.withoutFillup, List.foldl_filter]
  congr 1
  funext cell option
  cases option with
  | list =>
    simp only [Declaration.withoutFillup] at hf
    simp [clearOption, hf]
  | _ => rfl

theorem clearAll_withoutFillup (d : Declaration) (cell : Cell) :
    cell.clearAll d.withoutFillup = cell.clearAll d := by
  simp only [clearAll, Declaration.withoutFillup, List.foldl_filter]
  congr 1
  funext cell option
  cases option <;> rfl

theorem save?_withoutFillup (d : Declaration) (cell : Cell) :
    cell.save? d.withoutFillup = cell.save? d := by
  simp only [save?, Declaration.withoutFillup, List.foldlM_filter]
  congr 1
  funext cell option
  cases option <;> rfl

end Cell

/-! ## The template -/

section Template
variable (t : Template) (column : Nat)

theorem values_withoutFillup (i : Nat) :
    (t.withoutFillup column).values[i]? =
      if column = i then t.values[i]?.map Declaration.withoutFillup else t.values[i]? := by
  simp only [Template.withoutFillup, List.getElem?_modify]
  split <;> cases t.values[i]? <;> rfl

theorem map_values_withoutFillup {β : Type} (f : Declaration → β)
    (hf : ∀ d, f d.withoutFillup = f d) :
    (t.withoutFillup column).values.map f = t.values.map f := by
  apply List.ext_getElem?
  intro i
  rw [List.getElem?_map, List.getElem?_map, values_withoutFillup]
  split
  · cases t.values[i]? <;> simp [hf]
  · rfl

theorem header_withoutFillup : (t.withoutFillup column).header = t.header :=
  map_values_withoutFillup t column _ fun _ => rfl

/-- It reads every text in the same way. -/
theorem trace_withoutFillup (source : String) :
    (t.withoutFillup column).trace source = t.trace source :=
  trace_congr (header_withoutFillup t column) rfl source

/-! ### Recording and forgetting -/

theorem map_clear_withoutFillup :
    (t.withoutFillup column).values.map Cell.clear = t.values.map Cell.clear :=
  map_values_withoutFillup t column _ fun d => funext (Cell.clear_withoutFillup d)

theorem clear_withoutFillup (run : Run) : run.clear (t.withoutFillup column) = run.clear t :=
  clear_congr (map_clear_withoutFillup t column) run

theorem clearAll_withoutFillup (run : Run) :
    run.clearAll (t.withoutFillup column) = run.clearAll t :=
  clearAll_congr
    (map_values_withoutFillup t column _ fun d => funext (Cell.clearAll_withoutFillup d)) run

theorem record_withoutFillup (run : Run) : run.record (t.withoutFillup column) = run.record t :=
  record_congr (map_clear_withoutFillup t column)
    (map_values_withoutFillup t column _ fun d => funext (Cell.save?_withoutFillup d)) run

end Template

end TemplateBench.TextFsm
