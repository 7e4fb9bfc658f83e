import TemplateBench.Proofs.Records
import TemplateBench.Proofs.TextFsm.OneLine
import TemplateBench.Proofs.Ttp.OneLine

/-!
Displayed tables, line by line.

* `Table.Unbroken`: no name of a column and no cell has a line feed; `process_unbroken` says so of
  the tables of both parsing engines.
* `Table.rowLines`, `Table.blockLines`: the lines of such a table, one a row or one a field.
* `RowsShown`, `BlocksShown`: where the rows and the cells of a table stand in a text.
* `process_render`: so every cell can be read off its line.
-/
namespace TemplateBench
open Text

/-- No name of a column and no cell has a line feed. -/
structure Table.Unbroken (t : Table) : Prop where
  header : ∀ name ∈ t.header, OneLine name
  cells : ∀ row ∈ t.rows, ∀ cell ∈ row, OneLine (cellText cell)

theorem process_unbroken {kind : EngineKind} (hk : kind = .textFsm ∨ kind = .ttp)
    {source template : String} {t : Table} (h : process kind source template = .ok (.table t)) :
    t.Unbroken := by
  rcases process_cases hk h with ⟨u, table, hu, htable, he⟩ | ⟨u, hu, he⟩
  · cases he
    refine ⟨?_, TextFsm.parse_oneLine hu htable⟩
    obtain ⟨run, _, rfl⟩ := TextFsm.Run.parse_reachable htable
    exact TextFsm.compile_header_oneLine hu
  · cases he
    exact ⟨Ttp.compile_header_oneLine hu, Ttp.parse_oneLine hu source⟩

/-! ## Lines of a table -/

theorem oneLine_bracketed {items : List String} (h : ∀ s ∈ items, OneLine s) :
    OneLine (bracketed items) := by
  simp only [bracketed, oneLine_append]
  exact ⟨⟨by decide, oneLine_intercalate (by decide) h⟩, by decide⟩

def Table.title (t : Table) : String := "Header: " ++ bracketed t.header

def Table.rowLines (t : Table) : List String :=
  [t.title, "", "Data:"] ++ t.rows.map fun row => bracketed (row.map cellText)

def fieldLine (name : String) (cell : Json) : String := "  " ++ name ++ ": " ++ cellText cell

/-- The lines of a record. -/
def recordLines (header : List String) (row : List Json) (number : Nat) : List String :=
  ["", "Record " ++ toString number ++ ":"] ++ List.zipWith fieldLine header row

def Table.blockLines (t : Table) : List String :=
  [t.title] ++ (t.rows.zipIdx 1).flatMap fun (row, number) => recordLines t.header row number

variable {t : Table}

theorem Table.Unbroken.hasLines_headerLine (h : t.Unbroken) : HasLines t.headerLine [t.title] :=
  .line (oneLine_append.mpr ⟨by decide, oneLine_bracketed h.header⟩)

theorem Table.Unbroken.hasLines_renderRows (h : t.Unbroken) : HasLines t.renderRows t.rowLines := by
  have hdata : HasLines "\nData:\n" ["", "Data:"] := by decide
  have hrows : HasLines (String.join (t.rows.map fun row => bracketed (row.map cellText) ++ "\n"))
      (t.rows.flatMap fun row => [bracketed (row.map cellText)]) := by
    refine .join fun row hrow => .line (oneLine_bracketed fun s hs => ?_)
    obtain ⟨cell, hcell, rfl⟩ := List.mem_map.mp hs
    exact h.cells row hrow cell hcell
  have hall := (h.hasLines_headerLine.append hdata).append hrows
  rwa [← List.map_eq_flatMap] at hall

/-- The lines of a record, its fields one a line. -/
theorem hasLines_record {header : List String} (hheader : ∀ name ∈ header, OneLine name)
    {row : List Json} (hrow : ∀ cell ∈ row, OneLine (cellText cell)) (number : Nat) :
    HasLines ("\nRecord " ++ toString number ++ ":\n" ++
      String.join (List.zipWith renderField header row)) (recordLines header row number) := by
  have hblank : HasLines "\n" [""] := by decide
  have hnumber : HasLines ("Record " ++ toString number ++ ":" ++ "\n")
      ["Record " ++ toString number ++ ":"] := by
    refine .line ?_
    simp only [oneLine_append]
    exact ⟨⟨by decide, oneLine_toString number⟩, by decide⟩
  have hfields : HasLines (String.join ((header.zip row).map fun p => renderField p.1 p.2))
      ((header.zip row).flatMap fun p => [fieldLine p.1 p.2]) := by
    refine .join fun p hp => .line ?_
    obtain ⟨hname, hcell⟩ := List.of_mem_zip hp
    simp only [oneLine_append]
    exact ⟨⟨⟨by decide, hheader _ hname⟩, by decide⟩, hrow _ hcell⟩
  have hall := (hblank.append hnumber).append hfields
  have htext : "\nRecord " ++ toString number ++ ":\n" =
      "\n" ++ ("Record " ++ toString number ++ ":" ++ "\n") := by
    rw [← String.toList_inj]
    simp
  rw [htext]
  rwa [← List.map_eq_flatMap, List.map_zip_eq_zipWith, List.map_zip_eq_zipWith] at hall

theorem Table.Unbroken.hasLines_renderBlocks (h : t.Unbroken) :
    HasLines t.renderBlocks t.blockLines :=
  h.hasLines_headerLine.append <| .join fun p hp =>
    hasLines_record h.header (h.cells p.1 (List.fst_mem_of_mem_zipIdx hp)) p.2

/-! ## Places in a text -/

/-- A text that shows the rows of a table, each on a line of its own. -/
structure RowsShown (t : Table) (text : String) : Prop where
  ended : HasLines text (endedLines text)
  length : (endedLines text).length = 3 + t.rows.length
  front : (endedLines text).take 3 = ["Header: " ++ bracketed t.header, "", "Data:"]
  row : ∀ (k : Nat) (row : List Json), t.rows[k]? = some row →
    (endedLines text)[3 + k]? = some (bracketed (row.map cellText))

/-- The text of cell `j` of record `k`, read off its line; both are counted from zero. -/
def readCell (header : List String) (text : String) (k j : Nat) : Option String := do
  let name ← header[j]?
  let line ← (endedLines text)[1 + k * (2 + header.length) + 2 + j]?
  return String.ofList (line.toList.drop ("  " ++ name ++ ": ").length)

/-- A text that shows the records of a table one after the other, with a line for each field. -/
structure BlocksShown (t : Table) (text : String) : Prop where
  ended : HasLines text (endedLines text)
  length : (endedLines text).length = 1 + t.rows.length * (2 + t.header.length)
  title : (endedLines text)[0]? = some ("Header: " ++ bracketed t.header)
  blank : ∀ k < t.rows.length, (endedLines text)[1 + k * (2 + t.header.length)]? = some ""
  number : ∀ k < t.rows.length, (endedLines text)[1 + k * (2 + t.header.length) + 1]? =
    some ("Record " ++ toString (k + 1) ++ ":")
  field : ∀ (k j : Nat) (row : List Json) (name : String) (cell : Json), t.rows[k]? = some row →
    t.header[j]? = some name → row[j]? = some cell →
    (endedLines text)[1 + k * (2 + t.header.length) + 2 + j]? =
      some ("  " ++ name ++ ": " ++ cellText cell)
  readBack : ∀ (k j : Nat) (row : List Json) (cell : Json), t.rows[k]? = some row →
    row[j]? = some cell → readCell t.header text k j = some (cellText cell)

theorem Table.Unbroken.rowsShown (h : t.Unbroken) : RowsShown t t.renderRows := by
  have hlines := h.hasLines_renderRows
  have hended := hlines.endedLines_eq
  refine ⟨hended.symm ▸ hlines, ?_, ?_, fun k row hrow => ?_⟩
  · rw [hended]
    simp [rowLines]
    omega
  · rw [hended]
    rfl
  · rw [hended, rowLines, List.getElem?_append_right (by simp)]
    simp [hrow]

/-- The blocks of all records have one length. -/
theorem Table.Regular.length_recordLines (h : t.Regular) :
    ∀ p ∈ t.rows.zipIdx 1, (recordLines t.header p.1 p.2).length = 2 + t.header.length := by
  intro p hp
  have hwidth := h.width p.1 (List.fst_mem_of_mem_zipIdx hp)
  simp [recordLines, hwidth]
  omega

theorem Table.Regular.length_blockLines (h : t.Regular) :
    t.blockLines.length = 1 + t.rows.length * (2 + t.header.length) := by
  rw [blockLines, List.length_append, length_blocks h.length_recordLines, List.length_zipIdx]
  rfl

theorem Table.Regular.getElem?_blockLines (h : t.Regular) {k i : Nat} {row : List Json}
    (hrow : t.rows[k]? = some row) (hi : i < 2 + t.header.length) :
    t.blockLines[1 + k * (2 + t.header.length) + i]? = (recordLines t.header row (k + 1))[i]? := by
  have hplace : 1 + k * (2 + t.header.length) + i = k * (2 + t.header.length) + i + 1 := by omega
  rw [blockLines, List.singleton_append, hplace, List.getElem?_cons_succ,
    getElem?_blocks h.length_recordLines _ hi]
  simp [List.getElem?_zipIdx, hrow, Nat.add_comm 1 k]

theorem Table.Regular.getElem?_field (h : t.Regular) {k j : Nat} {row : List Json} {name : String}
    {cell : Json} (hrow : t.rows[k]? = some row) (hname : t.header[j]? = some name)
    (hcell : row[j]? = some cell) :
    t.blockLines[1 + k * (2 + t.header.length) + 2 + j]? = some (fieldLine name cell) := by
  have hj : j < t.header.length := (List.getElem?_eq_some_iff.mp hname).1
  rw [Nat.add_assoc _ 2 j, h.getElem?_blockLines hrow (by omega), Nat.add_comm 2 j]
  simp [recordLines, List.getElem?_zipWith, hname, hcell]

/-- What follows the name on the line of a cell is its text. -/
theorem readCell_eq {header : List String} {text name shown : String} {k j : Nat}
    (hname : header[j]? = some name)
    (hline : (endedLines text)[1 + k * (2 + header.length) + 2 + j]? =
      some ("  " ++ name ++ ": " ++ shown)) : readCell header text k j = some shown := by
  simp only [readCell, hname, hline, bind, Option.bind]
  rw [String.toList_append, ← String.length_toList, List.drop_left, String.ofList_toList]
  rfl

theorem Table.Unbroken.blocksShown (h : t.Unbroken) (ht : t.Regular) :
    BlocksShown t t.renderBlocks := by
  have hlines := h.hasLines_renderBlocks
  have hended := hlines.endedLines_eq
  refine ⟨hended.symm ▸ hlines, ?_, ?_, fun k hk => ?_, fun k hk => ?_,
    fun k j row name cell hrow hname hcell => ?_, fun k j row cell hrow hcell => ?_⟩
  · rw [hended, ht.length_blockLines]
  · rw [hended]
    rfl
  · rw [hended]
    exact ht.getElem?_blockLines (i := 0) (List.getElem?_eq_getElem hk) (by omega)
  · rw [hended]
    exact ht.getElem?_blockLines (i := 1) (List.getElem?_eq_getElem hk) (by omega)
  · rw [hended]
    exact ht.getElem?_field hrow hname hcell
  · have hj : j < t.header.length := by
      rw [← ht.width row (List.mem_of_getElem? hrow)]
      exact (List.getElem?_eq_some_iff.mp hcell).1
    have hname := List.getElem?_eq_getElem hj
    refine readCell_eq hname ?_
    rw [hended]
    exact ht.getElem?_field hrow hname hcell

/-- **Displayed tables.** Whatever a parsing engine makes of a text is a table whose names and cells
have no line feeds, with a cell for each column in every row. So its rows are shown one a line, and
its records as blocks with one line a field, and each cell can be read back from its line. -/
theorem process_render {kind : EngineKind} (hk : kind = .textFsm ∨ kind = .ttp)
    {source template : String} {o : Output} (h : process kind source template = .ok o) :
    ∃ t : Table, o = .table t ∧ (∀ name ∈ t.header, OneLine name) ∧
      (∀ row ∈ t.rows, ∀ cell ∈ row, OneLine (cellText cell)) ∧
      (∀ row ∈ t.rows, row.length = t.header.length) ∧
      RowsShown t (o.render (some .table)) ∧ BlocksShown t (o.render (some .detail)) := by
  obtain ⟨t, rfl, ht⟩ := process_regular hk h
  have hunbroken := process_unbroken hk h
  exact ⟨t, rfl, hunbroken.header, hunbroken.cells, ht.width, hunbroken.rowsShown,
    hunbroken.blocksShown ht⟩

/-- A list of peers, each with a number of its own, and a column that is filled up. -/
def peerVlans : String :=
  "Value Fillup Vlan (\\d+)\nValue List Peer ((?P<ip>\\S+) as (?P<asn>\\d+))\n\nStart\n" ++
    "  ^peer ${Peer}\n  ^vlan ${Vlan}\n  ^! -> Record\n"

def peerVlansInput : String := "peer 10.0.0.1 as 65000\n!\nvlan 10\n!\n"

/-- The first record gets its number from the second one, and its list is an object in a line. -/
theorem process_render_peerVlans :
    ∃ t : Table, process .textFsm peerVlansInput peerVlans = .ok (.table t) ∧
      (endedLines t.renderRows)[3]? =
        some "[10, [\x7b\"asn\":\"65000\",\"ip\":\"10.0.0.1\"\x7d]]" ∧
      (endedLines t.renderBlocks).length = 9 ∧
      readCell t.header t.renderBlocks 0 1 =
        some "[\x7b\"asn\":\"65000\",\"ip\":\"10.0.0.1\"\x7d]" := by
  obtain ⟨o, ho, ht⟩ : ∃ o, process .textFsm peerVlansInput peerVlans = .ok o ∧
      o.table?.any (fun t => t.header == ["Vlan", "Peer"] && t.rows.map (·.map cellText) ==
        [["10", "[\x7b\"asn\":\"65000\",\"ip\":\"10.0.0.1\"\x7d]"], ["10", "[]"]]) = true :=
    exists_ok (by decide +kernel)
  obtain ⟨t, rfl, _, _, _, hrows, hblocks⟩ := process_render (.inl rfl) ho
  obtain ⟨hheader, htexts⟩ := Bool.and_eq_true_iff.mp ht
  have hheader : t.header = ["Vlan", "Peer"] := eq_of_beq hheader
  have htexts : t.rows.map (·.map cellText) = _ := eq_of_beq htexts
  have hcount : t.rows.length = 2 := by simpa using congrArg List.length htexts
  have hfirst := congrArg (·[0]?) htexts
  simp only [List.getElem?_map] at hfirst
  obtain ⟨row, hrow, hcells⟩ := Option.map_eq_some_iff.mp hfirst
  have hsecond := congrArg (·[1]?) hcells
  simp only [List.getElem?_map] at hsecond
  obtain ⟨cell, hcell, hpeer⟩ := Option.map_eq_some_iff.mp hsecond
  refine ⟨t, ho, ?_, ?_, ?_⟩
  · have hline := hrows.row 0 row hrow
    rw [hcells] at hline
    exact hline.trans (by decide)
  · have hlength := hblocks.length
    rwa [hcount, hheader] at hlength
  · rw [← hpeer]
    exact hblocks.readBack 0 1 row cell hrow hcell

end TemplateBench
