import TemplateBench.TextFsm.Cell

/-!
What the options of a value do to its cell, in one equation an operation.

* `assign_eq`, `clear_eq` and `clearAll_eq`: options act independently of their order.
* `save?_eq`: order counts in one place only; a required list is tested on its last capture unless
  `List` comes before `Required` (`Declaration.testsItems`).
-/
namespace TemplateBench.TextFsm

theorem Declaration.has_iff (d : Declaration) (option : ValueOption) :
    d.has option = true ↔ option ∈ d.options := by
  simp [Declaration.has]

/-- A required value is tested on the list of its captures, not on the last one. -/
def Declaration.testsItems (d : Declaration) : Bool :=
  (d.options.takeWhile (· != .required)).contains .list

theorem Declaration.has_list_of_testsItems {d : Declaration} (h : d.testsItems = true) :
    d.has .list = true := by
  rw [has_iff]
  exact List.takeWhile_subset _ (by simpa [testsItems] using h)

/-- The cell that a record takes for a value. -/
def Cell.saved (d : Declaration) (cell : Cell) : Cell :=
  { cell with current := if d.has .list then some (.array cell.items) else cell.current }

/-- A required value has nothing to save. -/
def Cell.refused (d : Declaration) (cell : Cell) : Bool :=
  d.has .required &&
    if d.testsItems then cell.items.isEmpty else isEmptyCell cell.current

namespace Cell

/-! ## Options in any order -/

theorem foldl_assignOption (item : Json) (options : List ValueOption) (hn : options.Nodup)
    (cell : Cell) :
    options.foldl (assignOption item) cell =
      { cell with
        kept := if .filldown ∈ options then cell.current else cell.kept
        items := if .list ∈ options then cell.items ++ [item] else cell.items } := by
  induction options generalizing cell with
  | nil => simp
  | cons option rest ih =>
    obtain ⟨hnot, hrest⟩ := List.nodup_cons.mp hn
    rw [List.foldl_cons, ih hrest]
    cases option <;> simp [assignOption, hnot]

theorem foldl_clearOption (d : Declaration) (options : List ValueOption) (cell : Cell) :
    options.foldl (clearOption d) cell =
      { cell with
        current := if .filldown ∈ options then cell.kept else cell.current
        items := if .list ∈ options ∧ d.has .filldown = false then [] else cell.items } := by
  induction options generalizing cell with
  | nil => simp
  | cons option rest ih =>
    rw [List.foldl_cons, ih]
    cases option <;> cases hf : d.has .filldown <;> simp [clearOption, hf]

theorem foldl_clearAllOption (options : List ValueOption) (cell : Cell) :
    options.foldl clearAllOption cell =
      { cell with
        kept := if .filldown ∈ options then none else cell.kept
        items := if .list ∈ options then [] else cell.items } := by
  induction options generalizing cell with
  | nil => simp
  | cons option rest ih =>
    rw [List.foldl_cons, ih]
    cases option <;> simp [clearAllOption]

theorem foldlM_saveOption? (options : List ValueOption) (hn : options.Nodup) (cell : Cell) :
    options.foldlM saveOption? cell =
      if .required ∈ options ∧
          (if .list ∈ options.takeWhile (· != .required) then cell.items.isEmpty
            else isEmptyCell cell.current) = true then none
      else some { cell with
        current := if .list ∈ options then some (.array cell.items) else cell.current } := by
  induction options generalizing cell with
  | nil => simp
  | cons option rest ih =>
    obtain ⟨hnot, hrest⟩ := List.nodup_cons.mp hn
    rw [List.foldlM_cons]
    cases option with
    | required =>
      cases he : isEmptyCell cell.current with
      | true => simp [saveOption?, he]
      | false => simp [saveOption?, he, ih hrest, hnot]
    | list =>
      -- from here on a required value is tested on the array
      have htake : ValueOption.list ∉ rest.takeWhile (· != .required) := fun hm =>
        hnot (List.takeWhile_subset _ hm)
      simp only [saveOption?, Option.bind_eq_bind, Option.bind_some, ih hrest]
      simp [hnot, htake, isEmptyCell]
    | filldown => simp [saveOption?, ih hrest]
    | fillup => simp [saveOption?, ih hrest]
    | key => simp [saveOption?, ih hrest]

/-! ## Operations -/

theorem assign_eq {d : Declaration} (hd : d.options.Nodup) (captured : Option String)
    (cell : Cell) :
    cell.assign d captured =
      { current := captured.map .string
        kept := if d.has .filldown then captured.map .string else cell.kept
        items := if d.has .list then cell.items ++ [listItem d captured] else cell.items } := by
  rw [assign, foldl_assignOption _ _ hd]
  simp only [Declaration.has_iff]

theorem clear_eq (d : Declaration) (cell : Cell) :
    cell.clear d =
      { current := if d.has .filldown then cell.kept else none
        kept := cell.kept
        items := if d.has .list && !d.has .filldown then [] else cell.items } := by
  rw [clear, foldl_clearOption]
  simp only [Bool.and_eq_true, Bool.not_eq_true', Declaration.has_iff]

theorem clearAll_eq (d : Declaration) (cell : Cell) :
    cell.clearAll d =
      { current := none
        kept := if d.has .filldown then none else cell.kept
        items := if d.has .list then [] else cell.items } := by
  rw [clearAll, foldl_clearAllOption]
  simp only [Declaration.has_iff]

theorem save?_eq {d : Declaration} (hd : d.options.Nodup) (cell : Cell) :
    cell.save? d = if cell.refused d then none else some (cell.saved d) := by
  rw [save?, foldlM_saveOption? _ hd]
  simp only [refused, saved, Bool.and_eq_true, Declaration.has_iff, Declaration.testsItems,
    List.contains_iff_mem]

end Cell

end TemplateBench.TextFsm
