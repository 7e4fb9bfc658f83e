import TemplateBench.Proofs.TextFsm.History

/-!
Filling empty cells of a column with what is captured later.

* `Run.futures`: for each row of a run, the events after it was recorded.
* `backfill`: a row whose cell takes the first text of its future. Later captures change nothing
  once there is a text (`backfill_of_text?`).
* `fillUp_eq_map`: in a column whose empty cells come last, filling up fills all of them.
* `fillUp_zipWith_backfill`: filling up another column is independent of this.
-/
namespace TemplateBench.TextFsm
open Text

/-! ## Futures -/

/-- The text that an event captures for a column, unless it is empty. -/
def Event.text? (column : Nat) (e : Event) : Option String :=
  (e.capture? column).join.filter (· != "")

/-- The first text other than "" that events capture for a column. -/
def firstText (column : Nat) (events : List Event) : Option String :=
  events.findSome? (Event.text? column)

/-- Whether an event appends a row. -/
def Run.appends (t : Template) (run : Run) (e : Event) : Bool :=
  run.rows.length < (run.apply t e).rows.length

/-- For each row that a run records, in order, the events that come after it. -/
def Run.futures (t : Template) : Run → List Event → List (List Event)
  | _, [] => []
  | run, e :: rest =>
    (if run.appends t e then [rest] else []) ++ futures t (run.apply t e) rest

/-- A row whose cell in a column, if it is empty, takes the first text of the future. -/
def backfill (column : Nat) (future : List Event) (row : List Json) : List Json :=
  match firstText column future with
  | some text => if isEmptyCell row[column]? then row.set column (.string text) else row
  | none => row

theorem firstText_append (column : Nat) (events more : List Event) :
    firstText column (events ++ more) = (firstText column events).or (firstText column more) := by
  simp [firstText, List.findSome?_append]

theorem firstText_ne_empty {column : Nat} {events : List Event} {text : String}
    (h : firstText column events = some text) : text ≠ "" := by
  obtain ⟨e, _, he⟩ := List.exists_of_findSome?_eq_some h
  have := (Option.filter_eq_some_iff.mp he).2
  simpa using this

theorem isEmptyCell_string {text : String} (h : text ≠ "") :
    isEmptyCell (some (.string text)) = false := by
  simpa [isEmptyCell] using h

theorem backfill_of_text?_eq_none {column : Nat} {e : Event} (he : e.text? column = none)
    (future : List Event) (row : List Json) :
    backfill column (future ++ [e]) row = backfill column future row := by
  have h : firstText column [e] = none := by simp [firstText, he]
  simp [backfill, firstText_append, h]

theorem backfill_of_text? {column : Nat} {e : Event} {text : String}
    (he : e.text? column = some text) (future : List Event) (row : List Json)
    (hlt : column < row.length) :
    backfill column (future ++ [e]) row =
      if isEmptyCell (backfill column future row)[column]? then
        (backfill column future row).set column (.string text)
      else backfill column future row := by
  have h : firstText column [e] = some text := by simp [firstText, he]
  cases hf : firstText column future with
  | none => simp [backfill, firstText_append, h, hf]
  | some first =>
    have hne := isEmptyCell_string (firstText_ne_empty hf)
    cases hr : isEmptyCell row[column]? with
    | true =>
      have hset : (row.set column (.string first))[column]? = some (.string first) :=
        List.getElem?_set_self hlt
      simp only [backfill, firstText_append, hf, Option.some_or, hr, ↓reduceIte, hset, hne,
        Bool.false_eq_true]
    | false => simp [backfill, firstText_append, hf, hr]

theorem backfill_set {column other : Nat} (h : other ≠ column) (future : List Event)
    (row : List Json) (value : Json) :
    backfill column future (row.set other value) =
      (backfill column future row).set other value := by
  unfold backfill
  rw [List.getElem?_set_ne h]
  split
  · split
    · rw [List.set_comm _ _ h]
    · rfl
  · rfl

theorem backfill_getElem?_ne {column other : Nat} (h : other ≠ column) (future : List Event)
    (row : List Json) : (backfill column future row)[other]? = row[other]? := by
  unfold backfill
  split
  · split
    · rw [List.getElem?_set_ne (Ne.symm h)]
    · rfl
  · rfl

theorem length_backfill (column : Nat) (future : List Event) (row : List Json) :
    (backfill column future row).length = row.length := by
  unfold backfill
  split
  · split <;> simp
  · rfl

/-- A backfilled cell that was empty. -/
theorem backfill_getElem?_self {column : Nat} {row : List Json} {text : String}
    (hrow : row[column]? = some (.string text)) (he : isEmptyCell row[column]? = true)
    (future : List Event) :
    (backfill column future row)[column]? = some (.string ((firstText column future).getD "")) := by
  have hlt := (List.getElem?_eq_some_iff.mp hrow).1
  unfold backfill
  cases hf : firstText column future with
  | some first => simp only [he, ↓reduceIte, List.getElem?_set_self hlt, Option.getD_some]
  | none =>
    rw [hrow] at he
    simp only [hrow, Option.getD_none, Option.some.injEq, Json.string.injEq]
    simpa [isEmptyCell] using he

theorem backfill_of_not_empty {column : Nat} {row : List Json}
    (he : isEmptyCell row[column]? = false) (future : List Event) :
    backfill column future row = row := by
  unfold backfill
  split
  · simp [he]
  · rfl

/-! ## Filling up -/

theorem length_fillDown (column : Nat) (value : Json) (rows : List (List Json)) :
    (fillDown column value rows).length = rows.length := by
  induction rows with
  | nil => rfl
  | cons row rest ih =>
    unfold fillDown
    split
    · simp [ih]
    · rfl

/-- Filling down a column whose empty cells come first fills all of them. -/
theorem fillDown_eq_map (column : Nat) (value : Json) (rows : List (List Json))
    (h : (rows.map (·[column]?)).Pairwise fun later earlier =>
      isEmptyCell earlier = true → isEmptyCell later = true) :
    fillDown column value rows =
      rows.map fun row => if isEmptyCell row[column]? then row.set column value else row := by
  induction rows with
  | nil => rfl
  | cons row rest ih =>
    obtain ⟨hrow, hrest⟩ := List.pairwise_cons.mp h
    rw [fillDown, List.map_cons, ih hrest]
    cases hr : isEmptyCell row[column]? with
    | true => rfl
    | false =>
      -- no cell below is empty, so the others stay
      have hid : rest.map (fun row => if isEmptyCell row[column]? then row.set column value
          else row) = rest := by
        refine (List.map_congr_left fun r hm => if_neg fun he => ?_).trans (List.map_id' rest)
        have hc := hrow _ (List.mem_map_of_mem hm) he
        rw [hr] at hc
        cases hc
      simp [hid]

theorem fillUp_eq_map (column : Nat) (value : Json) (rows : List (List Json))
    (h : (rows.map (·[column]?)).Pairwise fun earlier later =>
      isEmptyCell earlier = true → isEmptyCell later = true) :
    fillUp column value rows =
      rows.map fun row => if isEmptyCell row[column]? then row.set column value else row := by
  have hr : (rows.reverse.map (·[column]?)).Pairwise fun later earlier =>
      isEmptyCell earlier = true → isEmptyCell later = true := by
    rw [List.map_reverse, List.pairwise_reverse]
    exact h
  rw [fillUp, fillDown_eq_map column value _ hr, ← List.map_reverse, List.reverse_reverse]

/-- Filling up one column leaves the others. -/
theorem map_getElem?_fillUp {column other : Nat} (h : other ≠ column) (value : Json)
    (rows : List (List Json)) :
    (fillUp other value rows).map (·[column]?) = rows.map (·[column]?) := by
  have hdown : ∀ rows : List (List Json),
      (fillDown other value rows).map (·[column]?) = rows.map (·[column]?) := by
    intro rows
    induction rows with
    | nil => rfl
    | cons row rest ih =>
      unfold fillDown
      split
      · simp [ih, List.getElem?_set_ne h]
      · rfl
  rw [fillUp, List.map_reverse, hdown, ← List.map_reverse, List.reverse_reverse]

/-- Filling up one column and filling back another commute. -/
theorem fillUp_zipWith_backfill {column other : Nat} (h : other ≠ column) (value : Json)
    (futures : List (List Event)) (rows : List (List Json)) (hl : futures.length = rows.length) :
    fillUp other value (List.zipWith (backfill column) futures rows) =
      List.zipWith (backfill column) futures (fillUp other value rows) := by
  have hdown : ∀ (futures : List (List Event)) (rows : List (List Json)),
      fillDown other value (List.zipWith (backfill column) futures rows) =
        List.zipWith (backfill column) futures (fillDown other value rows) := by
    intro futures
    induction futures with
    | nil => intro rows; simp [fillDown]
    | cons future futures ih =>
      intro rows
      cases rows with
      | nil => simp [fillDown]
      | cons row rest =>
        simp only [List.zipWith_cons_cons, fillDown, backfill_getElem?_ne h]
        split
        · rw [ih, List.zipWith_cons_cons, backfill_set h]
        · rfl
  rw [fillUp, fillUp, List.reverse_zipWith hl, hdown, List.reverse_zipWith (by
    simp [length_fillDown, hl]), List.reverse_reverse]

end TemplateBench.TextFsm
