import TemplateBench.Engine
import TemplateBench.Proofs.Json.Members
import TemplateBench.Proofs.TextFsm.Closed
import TemplateBench.Proofs.TextFsm.Rows
import TemplateBench.Proofs.Ttp.Passages

/-!
Records of a table.

* `Table.Regular`: columns have distinct names and rows have a cell for each of them.
* `Regular.record`: the record of such a row says of every column what the row says of it.
* `TextFsm.parse_regular`, `Ttp.parse_regular`: both parsing engines make such tables, the one since
  values have distinct names and a record takes all of them, the other since its columns are
  collected once and a row starts with all of them.
* `process_cases`: what a parsing engine gives is the table of a template that compiles.
* `process_records`: so records lose nothing.
-/
namespace TemplateBench

/-! ## Regular tables -/

/-- Every cell of a row has a column, every column a cell, and no two columns have one name. -/
structure Table.Regular (t : Table) : Prop where
  header : t.header.Nodup
  width : ∀ row ∈ t.rows, row.length = t.header.length

/-- A record tells every cell of a row by the name of its column, and nothing else. -/
structure Tells (header : List String) (row : List Json) (record : Json) : Prop where
  names : ∃ members, record = .object members ∧ members.length = header.length ∧
    (members.map (·.1)).Perm header
  cell : ∀ (j : Nat) (name : String), header[j]? = some name →
    ∃ value, row[j]? = some value ∧ record.field? name = some value

theorem Table.Regular.record {t : Table} (h : t.Regular) {row : List Json} (hrow : row ∈ t.rows) :
    Tells t.header row (Json.ofMembers (t.header.zip row)) := by
  have hwidth := h.width row hrow
  have hkeys : (t.header.zip row).map (·.1) = t.header :=
    List.map_fst_zip (by omega)
  have hnodup : ((t.header.zip row).map (·.1)).Nodup := by
    rw [hkeys]
    exact h.header
  have hperm := Json.sortMembers_perm hnodup
  refine ⟨⟨_, rfl, ?_, ?_⟩, fun j name hj => ?_⟩
  · rw [hperm.length_eq, List.length_zip, hwidth, Nat.min_self]
  · have hnames := hperm.map (·.1)
    rwa [hkeys] at hnames
  · have hlt : j < row.length := by
      rw [hwidth]
      exact (List.getElem?_eq_some_iff.mp hj).1
    have hvalue := List.getElem?_eq_getElem hlt
    refine ⟨row[j], hvalue, Json.field?_ofMembers hnodup ?_⟩
    exact List.mem_of_getElem? (List.getElem?_zip_eq_some.mpr ⟨hj, hvalue⟩)

/-! ## Engines -/

theorem TextFsm.parse_regular {text source : String} {t : TextFsm.Template} {table : Table}
    (h : TextFsm.Template.compile text = .ok t) (hp : t.parse source = .ok table) :
    table.Regular := by
  obtain ⟨run, hr, rfl⟩ := TextFsm.Run.parse_reachable hp
  refine ⟨(TextFsm.compile_closed h).valueNames, fun row hrow => ?_⟩
  have hcomplete := (hr.rows_complete (TextFsm.compile_options_nodup h)).2 row hrow
  simpa [TextFsm.Template.header] using hcomplete.length

theorem Ttp.Group.rows_width {header : List String} (h : header.Nodup) (g : Ttp.Group)
    (text : List (List Char)) : ∀ row ∈ g.rows header text, row.length = header.length := by
  unfold Ttp.Group.rows
  cases g.lines with
  | nil => simp
  | cons first others =>
    dsimp only
    rw [Ttp.collect_eq_passages first others h]
    intro row hrow
    obtain ⟨p, _, rfl⟩ := List.mem_map.mp hrow
    exact List.length_map _

theorem Ttp.parse_regular {text : String} {t : Ttp.Template} (h : Ttp.Template.compile text = .ok t)
    (source : String) : (t.parse source).Regular := by
  have hnodup := Ttp.compile_header_nodup h
  refine ⟨hnodup, fun row hrow => ?_⟩
  obtain ⟨g, _, hg⟩ := List.mem_flatMap.mp hrow
  exact g.rows_width hnodup _ row hg

/-- A parsing engine gives the table that a template which compiles makes of the text. -/
theorem process_cases {kind : EngineKind} (hk : kind = .textFsm ∨ kind = .ttp)
    {source template : String} {o : Output} (h : process kind source template = .ok o) :
    (∃ t table, TextFsm.Template.compile template = .ok t ∧ t.parse source = .ok table ∧
      o = .table table) ∨
    ∃ t, Ttp.Template.compile template = .ok t ∧ o = .table (t.parse source) := by
  rcases hk with rfl | rfl
  · obtain ⟨t, ht, h⟩ := bind_eq_ok_iff.mp h
    obtain ⟨table, htable, h⟩ := bind_eq_ok_iff.mp h
    cases h
    exact .inl ⟨t, table, ok_of_mapError ht, ok_of_mapError htable, rfl⟩
  · obtain ⟨t, ht, h⟩ := bind_eq_ok_iff.mp h
    cases h
    exact .inr ⟨t, ok_of_mapError ht, rfl⟩

theorem process_regular {kind : EngineKind} (hk : kind = .textFsm ∨ kind = .ttp)
    {source template : String} {o : Output} (h : process kind source template = .ok o) :
    ∃ t, o = .table t ∧ t.Regular := by
  rcases process_cases hk h with ⟨t, table, ht, htable, rfl⟩ | ⟨t, ht, rfl⟩
  · exact ⟨table, rfl, TextFsm.parse_regular ht htable⟩
  · exact ⟨t.parse source, rfl, Ttp.parse_regular ht source⟩

/-- **Records lose nothing.** Whatever a parsing engine makes of a text is a table of distinct
columns with a cell for each of them in every row, and it has one record a row, in the same order,
with as many members as there are columns: each column with the cell of that row. -/
theorem process_records {kind : EngineKind} (hk : kind = .textFsm ∨ kind = .ttp)
    {source template : String} {o : Output} (h : process kind source template = .ok o) :
    ∃ t : Table, o = .table t ∧ t.header.Nodup ∧ (∀ row ∈ t.rows, row.length = t.header.length) ∧
      List.Forall₂ (Tells t.header) t.rows o.records := by
  obtain ⟨t, rfl, ht⟩ := process_regular hk h
  refine ⟨t, rfl, ht.header, ht.width, ?_⟩
  rw [Output.records, Table.records, List.forall₂_map_right_iff]
  exact List.forall₂_same.mpr fun row hrow => ht.record hrow

/-- The members of the records are sorted by name, which the columns are not. -/
theorem process_records_portNotes :
    ∃ t : Table, process .ttp Ttp.portNotesInput Ttp.portNotes = .ok (.table t) ∧
      t.header = ["port", "vlan", "note"] ∧ t.rows.length = 2 ∧
      (∀ row ∈ t.rows, row.length = 3) ∧ List.Forall₂ (Tells t.header) t.rows t.records := by
  obtain ⟨o, ho, ht⟩ : ∃ o, process .ttp Ttp.portNotesInput Ttp.portNotes = .ok o ∧
      o.table?.any (fun t => t.header == ["port", "vlan", "note"] && t.rows.length == 2) = true :=
    exists_ok (by decide +kernel)
  obtain ⟨t, rfl, _, hwidth, hrecords⟩ := process_records (.inr rfl) ho
  obtain ⟨hheader, hrows⟩ := Bool.and_eq_true_iff.mp ht
  have hnames := eq_of_beq hheader
  rw [hnames] at hwidth
  exact ⟨t, ho, hnames, eq_of_beq hrows, hwidth, hrecords⟩

end TemplateBench
