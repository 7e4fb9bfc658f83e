import TemplateBench.Proofs.TextFsm.Rows

/-!
What kind of cell stands in a column.

* `Suits`: an array suits a list, a text any other value. A list that fills up may also hold the
  bare text of a capture.
* `rowAt_typed`, `RowTyped.fill`: a record writes such cells, and so does filling up.
* `Run.Reachable.rows_typed`: so all rows of a run hold such cells.
* `parse_typed`: so do all rows of a table.
* `parse_filledList`: the bare text does occur.
-/
namespace TemplateBench.TextFsm
open Text

/-- Which cells a value may have. -/
inductive Suits (d : Declaration) : Json → Prop
  | text (text : String) : d.has .list = false → Suits d (.string text)
  | list (items : List Json) : d.has .list = true → Suits d (.array items)
  /-- A list that was recorded empty is filled with one capture, not with a list of it. -/
  | filled {text : String} : d.has .list = true → d.has .fillup = true → text ≠ "" →
      Suits d (.string text)

/-- Every value has a cell, and one that suits it. -/
def RowTyped (t : Template) (row : List Json) : Prop :=
  ∀ (column : Nat) (d : Declaration), t.values[column]? = some d →
    ∃ cell, row[column]? = some cell ∧ Suits d cell

theorem Suits.of_fillup {d : Declaration} (hf : d.has .fillup = true) {text : String}
    (h : text ≠ "") : Suits d (.string text) := by
  cases hl : d.has .list with
  | true => exact .filled hl hf h
  | false => exact .text text hl

/-! ## Recorded rows -/

theorem cellAt_suits (d : Declaration) (column : Nat) (past : List Event) :
    Suits d (cellAt d column past) := by
  unfold cellAt
  split
  · rename_i hl
    exact .list _ hl
  · rename_i hl
    exact .text _ (by simpa using hl)

theorem rowAt_typed {t : Template} {past : List Event} {row : List Json}
    (h : rowAt t.values past = some row) : RowTyped t row := by
  simp only [rowAt] at h
  split at h
  · cases h
  · cases h
    intro column d hd
    exact ⟨cellAt d column past, by simp [hd], cellAt_suits d column past⟩

/-! ## Filled rows -/

theorem RowTyped.fill {t : Template} {row : List Json} (h : RowTyped t row) {column : Nat}
    {d : Declaration} (hd : t.values[column]? = some d) (hf : d.has .fillup = true) {text : String}
    (hne : text ≠ "") : RowTyped t (row.set column (.string text)) := by
  intro other d' hd'
  by_cases he : column = other
  · subst he
    obtain rfl : d = d' := Option.some.inj (hd.symm.trans hd')
    obtain ⟨cell, hcell, _⟩ := h column d hd
    have hlt := (List.getElem?_eq_some_iff.mp hcell).1
    exact ⟨.string text, List.getElem?_set_self hlt, .of_fillup hf hne⟩
  · rw [List.getElem?_set_ne he]
    exact h other d' hd'

theorem Run.Reachable.rows_typed {t : Template} (ht : t.OptionsNodup) {run : Run}
    (h : Reachable t run) : ∀ row ∈ run.rows, RowTyped t row :=
  (h.rows_forall ht (fun _ _ hrow => rowAt_typed hrow)
    fun _ _ _ _ hd hf hne hrow => hrow.fill hd hf hne).2

/-! ## Tables -/

/-- **Columns are typed.** In every row of a table each value has a cell: a text if it is no list,
and an array if it is one, except that a list with `Fillup` may have got the text of a capture. -/
theorem parse_typed {text : String} {t : Template} (h : Template.compile text = .ok t)
    {source : String} {table : Table} (hp : t.parse source = .ok table) :
    ∀ row ∈ table.rows, ∀ (column : Nat) (d : Declaration), t.values[column]? = some d →
      ∃ cell, row[column]? = some cell ∧
        (d.has .list = false → ∃ text, cell = .string text) ∧
        (d.has .list = true → d.has .fillup = false → ∃ items, cell = .array items) ∧
        (d.has .list = true → d.has .fillup = true →
          (∃ items, cell = .array items) ∨ ∃ text, cell = .string text ∧ text ≠ "") := by
  obtain ⟨run, hr, rfl⟩ := Run.parse_reachable hp
  intro row hrow column d hd
  obtain ⟨cell, hcell, hsuits⟩ := hr.rows_typed (compile_options_nodup h) row hrow column d hd
  refine ⟨cell, hcell, ?_⟩
  cases hsuits with
  | text text hl => exact ⟨fun _ => ⟨text, rfl⟩, by simp [hl], by simp [hl]⟩
  | list items hl =>
    exact ⟨by simp [hl], fun _ _ => ⟨items, rfl⟩, fun _ _ => .inl ⟨items, rfl⟩⟩
  | @filled text hl hf hne =>
    exact ⟨by simp [hl], by simp [hf], fun _ _ => .inr ⟨text, rfl, hne⟩⟩

/-- The column of VLANs fills up, the column of ports is a list. -/
theorem parse_typed_requiredPorts :
    ∃ t table, Template.compile requiredPorts = .ok t ∧
      t.parse "port p1\nport p2\n!\nvlan 10\n!\nport p3\n" = .ok table ∧ table.rows.length = 2 ∧
      ∀ row ∈ table.rows, (∃ text, row[0]? = some (.string text)) ∧
        ∃ items, row[1]? = some (.array items) := by
  obtain ⟨t, h, hv, hrows⟩ : ∃ t, Template.compile requiredPorts = .ok t ∧
      t.values = [⟨"Vlan", [.fillup], "(\\d+)", "(?P<Vlan>\\d+)", none⟩,
        ⟨"Port", [.required, .list], "(\\S+)", "(?P<Port>\\S+)", none⟩] ∧
      (t.parse "port p1\nport p2\n!\nvlan 10\n!\nport p3\n").toOption.any
        (·.rows.length == 2) = true :=
    exists_compile (by decide +kernel)
  obtain ⟨table, htable, hlength⟩ := (Option.any_eq_true _ _).mp hrows
  have hp := eq_ok_of_toOption htable
  refine ⟨t, table, h, hp, eq_of_beq hlength, fun row hrow => ?_⟩
  have htyped := parse_typed h hp row hrow
  obtain ⟨vlan, hvlan, htext, _⟩ := htyped 0 _ (by rw [hv]; rfl)
  obtain ⟨port, hport, _, hlist, _⟩ := htyped 1 _ (by rw [hv]; rfl)
  obtain ⟨text, rfl⟩ := htext rfl
  obtain ⟨items, rfl⟩ := hlist rfl rfl
  exact ⟨⟨text, hvlan⟩, items, hport⟩

def filledList : String :=
  "Value Required Port (\\S+)\nValue Fillup,List Vlan (\\d+)\n\nStart\n" ++
    "  ^port ${Port} -> Record\n  ^vlan ${Vlan}\n"

/-- A list that fills up gets the text of a capture in place of an array. -/
theorem parse_filledList :
    ∃ t d, Template.compile filledList = .ok t ∧ t.values[1]? = some d ∧ d.has .list = true ∧
      t.parse "port a\nvlan 10\n" =
        .ok ⟨["Port", "Vlan"], [[.string "a", .string "10"]]⟩ := by
  have hc : ∃ t, Template.compile filledList = .ok t ∧
      t.values = [⟨"Port", [.required], "(\\S+)", "(?P<Port>\\S+)", none⟩,
        ⟨"Vlan", [.fillup, .list], "(\\d+)", "(?P<Vlan>\\d+)", none⟩] ∧
      (t.trace "port a\nvlan 10\n").events =
        [.assign 0 (some "a"), .record, .assign 1 (some "10"), .record] ∧
      (t.trace "port a\nvlan 10\n").result.isOk = true :=
    exists_compile (by decide +kernel)
  obtain ⟨t, h, hv, he, hr⟩ := hc
  refine ⟨t, ⟨"Vlan", [.fillup, .list], "(\\d+)", "(?P<Vlan>\\d+)", none⟩, h, by rw [hv]; rfl,
    rfl, ?_⟩
  obtain ⟨values, states⟩ := t
  cases hv
  rw [parse_of_events he hr]
  rfl

end TemplateBench.TextFsm
