import TemplateBench.Proofs.Text.Lines
import TemplateBench.Proofs.TextFsm.Compiled
import TemplateBench.Proofs.TextFsm.Reachable
import Mathlib.Data.List.Forall2

/-!
Tables of a text that is still growing.

* `Grows`: what becomes of rows while more is read. Rows are only added at the end, and of a row
  only empty cells change, in columns that fill up.
* `Run.grows_apply`: every event makes rows grow, so every run does (`Run.grows_readLines`).
* `parse_firstLines`: a rejection and a stop are final, and what is recorded stays.
-/
namespace TemplateBench.TextFsm
open Text

/-! ## Rows that grow -/

/-- A row before and after more was read: a cell changes only if it was empty and is filled up. -/
structure RowGrows (t : Template) (row later : List Json) : Prop where
  length : later.length = row.length
  cell : ∀ column : Nat, later[column]? = row[column]? ∨
    ∃ d, t.values[column]? = some d ∧ d.has .fillup = true ∧
      isEmptyCell row[column]? = true ∧ isEmptyCell later[column]? = false

/-- Rows before and after more was read: each is still in its place, and more may follow. -/
inductive Grows (t : Template) : List (List Json) → List (List Json) → Prop
  | more (rows : List (List Json)) : Grows t [] rows
  | row {row later : List Json} {before after : List (List Json)} : RowGrows t row later →
      Grows t before after → Grows t (row :: before) (later :: after)

namespace RowGrows

variable {t : Template} {row later latest : List Json}

theorem refl (t : Template) (row : List Json) : RowGrows t row row :=
  ⟨rfl, fun _ => Or.inl rfl⟩

theorem trans (h : RowGrows t row later) (h' : RowGrows t later latest) :
    RowGrows t row latest := by
  refine ⟨h'.length.trans h.length, fun column => ?_⟩
  rcases h'.cell column with he' | ⟨d, hd, hf, hempty', hfull'⟩
  · rw [he']
    exact h.cell column
  · refine Or.inr ⟨d, hd, hf, ?_, hfull'⟩
    rcases h.cell column with he | ⟨_, _, _, _, hfull⟩
    · rw [← he]
      exact hempty'
    · -- a cell is filled up once only
      rw [hfull] at hempty'
      cases hempty'

theorem set {column : Nat} {d : Declaration} (hd : t.values[column]? = some d)
    (hf : d.has .fillup = true) {value : Json} (hv : isEmptyCell (some value) = false)
    (he : isEmptyCell row[column]? = true) : RowGrows t row (row.set column value) := by
  refine ⟨by simp, fun other => ?_⟩
  by_cases ho : column = other
  · subst ho
    by_cases hlt : column < row.length
    · exact Or.inr ⟨d, hd, hf, he, by rw [List.getElem?_set_self hlt]; exact hv⟩
    · exact Or.inl (by rw [List.set_eq_of_length_le (by omega)])
  · exact Or.inl (List.getElem?_set_ne ho)

end RowGrows

namespace Grows

variable {t : Template} {before after last : List (List Json)}

theorem append (t : Template) (rows more : List (List Json)) : Grows t rows (rows ++ more) := by
  induction rows with
  | nil => exact .more more
  | cons row rest ih => exact .row (.refl t row) ih

theorem refl (t : Template) (rows : List (List Json)) : Grows t rows rows := by
  simpa using append t rows []

theorem trans (h : Grows t before after) (h' : Grows t after last) : Grows t before last := by
  induction h generalizing last with
  | more => exact .more last
  | row hrow _ ih =>
    cases h' with
    | row hrow' hrest' => exact .row (hrow.trans hrow') (ih hrest')

theorem of_forall₂ (h : List.Forall₂ (RowGrows t) before after) : Grows t before after := by
  induction h with
  | nil => exact .more []
  | cons hrow _ ih => exact .row hrow ih

end Grows

/-! ## Runs -/

theorem fillDown_forall₂ (column : Nat) (value : Json) (rows : List (List Json)) :
    List.Forall₂ (fun row later => later = row ∨
      isEmptyCell row[column]? = true ∧ later = row.set column value) rows
      (fillDown column value rows) := by
  induction rows with
  | nil => exact .nil
  | cons row rest ih =>
    unfold fillDown
    split
    · exact .cons (Or.inr ⟨‹_›, rfl⟩) ih
    · exact List.forall₂_same.mpr fun _ _ => Or.inl rfl

theorem fillUp_forall₂ (column : Nat) (value : Json) (rows : List (List Json)) :
    List.Forall₂ (fun row later => later = row ∨
      isEmptyCell row[column]? = true ∧ later = row.set column value) rows
      (fillUp column value rows) := by
  rw [fillUp, ← List.forall₂_reverse_iff, List.reverse_reverse]
  exact fillDown_forall₂ column value rows.reverse

namespace Run

/-- A record adds one row at most. -/
theorem record_rows (t : Template) (run : Run) :
    ∃ more, (run.record t).rows = run.rows ++ more ∧ more.length ≤ 1 := by
  unfold record
  split
  · exact ⟨[], by simp⟩
  · split
    · exact ⟨[], by simp [clear]⟩
    · dsimp only
      split
      · exact ⟨[], by simp⟩
      · exact ⟨_, rfl, Nat.le_refl 1⟩

theorem grows_assign {t : Template} {column : Nat} {d : Declaration}
    (hd : t.values[column]? = some d) (captured : Option String) (run : Run) :
    Grows t run.rows (run.assign d column captured).rows := by
  unfold assign
  dsimp only
  split
  · rename_i hfill
    simp only [Bool.and_eq_true, Bool.not_eq_true'] at hfill
    obtain ⟨hf, hcurrent⟩ := hfill
    cases hc : ((run.cells.modify column (Cell.assign d captured))[column]?).bind (·.current) with
    | none => rw [hc] at hcurrent; cases hcurrent
    | some value =>
      rw [hc] at hcurrent
      refine .of_forall₂ ((fillUp_forall₂ column value run.rows).imp fun row later hrow => ?_)
      rcases hrow with rfl | ⟨he, rfl⟩
      · exact .refl t later
      · exact .set hd hf hcurrent he
  · exact .refl t run.rows

/-- What one event does to rows. -/
theorem grows_apply (t : Template) (run : Run) (e : Event) :
    Grows t run.rows (run.apply t e).rows := by
  cases e with
  | assign column captured =>
    cases hd : t.values[column]? with
    | none => simpa [apply, hd] using Grows.refl t run.rows
    | some d => simpa [apply, hd] using grows_assign hd captured run
  | record =>
    obtain ⟨more, hrows, _⟩ := record_rows t run
    rw [apply, hrows]
    exact .append t run.rows more
  | clear => exact .refl t run.rows
  | clearAll => exact .refl t run.rows

theorem grows_play (t : Template) (events : List Event) (run : Run) :
    Grows t run.rows (run.play t events).rows := by
  induction events generalizing run with
  | nil => exact .refl t run.rows
  | cons e rest ih => exact (grows_apply t run e).trans (ih (run.apply t e))

theorem grows_readLines {t : Template} {lines : List (List Char)} {run after : Run}
    (h : readLines t lines run = .ok after) : Grows t run.rows after.rows := by
  rw [readLines_eq_play] at h
  cases hr : (traceLines t run.state lines).result with
  | error rejection => rw [hr] at h; cases h
  | ok state =>
    rw [hr] at h
    cases h
    exact grows_play t _ run

/-- The end of the text adds one row at most, and none in `End` or where `EOF` is declared. -/
theorem finish_rows (t : Template) (run : Run) :
    ∃ closing, (run.finish t).rows = run.rows ++ closing ∧ closing.length ≤ 1 ∧
      (t.states.any (·.1 == "EOF") = true ∨ run.state = "End" → closing = []) := by
  unfold finish
  split
  · rename_i hopen
    simp only [Bool.and_eq_true, bne_iff_ne, Bool.not_eq_true'] at hopen
    obtain ⟨closing, hrows, hlen⟩ := record_rows t run
    refine ⟨closing, hrows, hlen, fun hclosed => ?_⟩
    rcases hclosed with he | hs
    · rw [hopen.2] at he
      cases he
    · exact absurd hs hopen.1
  · exact ⟨[], by simp⟩

theorem grows_finish (t : Template) (run : Run) : Grows t run.rows (run.finish t).rows := by
  obtain ⟨closing, hrows, _⟩ := finish_rows t run
  rw [hrows]
  exact .append t run.rows closing

end Run

/-! ## Texts -/

/-- The first lines of a text. -/
def firstLines (source : List (List Char)) (count : Nat) : String :=
  String.ofList (unlines (source.take count))

theorem lines_firstLines {k m : Nat} (h : k ≤ m) (source : List (List Char)) :
    ∃ more, lines (firstLines source m).toList = lines (firstLines source k).toList ++ more := by
  have htake : source.take m = source.take k ++ (source.drop k).take (m - k) := by
    rw [← List.take_add, Nat.add_sub_cancel' h]
  refine ⟨lines (unlines ((source.drop k).take (m - k))), ?_⟩
  rw [firstLines, firstLines, String.toList_ofList, String.toList_ofList, htake, unlines_append,
    lines_unlines_append]

theorem parse_eq_readLines (t : Template) (source : String) :
    t.parse source = (Run.readLines t (lines source.toList) (Run.start t)).map fun run =>
      ⟨t.header, (run.finish t).rows⟩ := by
  unfold Template.parse
  cases Run.readLines t (lines source.toList) (Run.start t) <;> rfl

/-- **Tables grow with the text.** Of a text that is read line by line, a rejection is final, and so
is the table once the run has stopped. Otherwise the rows recorded so far, which are those of the
table but for at most one that the end of the text adds, stay in place, and only empty cells that
fill up change. -/
theorem parse_firstLines (t : Template) (source : List (List Char)) {k m : Nat} (h : k ≤ m) :
    (∀ rejection, t.parse (firstLines source k) = .error rejection →
      t.parse (firstLines source m) = .error rejection) ∧
    (∀ run, Run.readLines t (lines (firstLines source k).toList) (Run.start t) = .ok run →
      isStop run.state = true → t.parse (firstLines source m) = t.parse (firstLines source k)) ∧
    ∀ before after, t.parse (firstLines source k) = .ok before →
      t.parse (firstLines source m) = .ok after →
      ∃ run closing,
        Run.readLines t (lines (firstLines source k).toList) (Run.start t) = .ok run ∧
        before.rows = run.rows ++ closing ∧ closing.length ≤ 1 ∧
        (t.states.any (·.1 == "EOF") = true ∨ run.state = "End" → closing = []) ∧
        after.header = before.header ∧ Grows t run.rows after.rows := by
  obtain ⟨more, hlines⟩ := lines_firstLines h source
  have hread := Run.readLines_append t (lines (firstLines source k).toList) more (Run.start t) rfl
  simp only [parse_eq_readLines, hlines, hread]
  cases hk : Run.readLines t (lines (firstLines source k).toList) (Run.start t) with
  | error rejection =>
    refine ⟨fun r hr => ?_, fun run hrun => ?_, fun before after hb => ?_⟩
    · cases hr
      rfl
    · cases hrun
    · cases hb
  | ok run =>
    refine ⟨fun r hr => ?_, fun run' hrun hstop => ?_, fun before after hb ha => ?_⟩
    · cases hr
    · cases hrun
      simp [Except.bind, hstop]
    · cases hb
      obtain ⟨closing, hrows, hlen, hnone⟩ := Run.finish_rows t run
      refine ⟨run, closing, rfl, hrows, hlen, hnone, ?_⟩
      simp only [Except.bind] at ha
      cases hs : isStop run.state with
      | true =>
        simp only [hs, ↓reduceIte] at ha
        cases ha
        exact ⟨rfl, Run.grows_finish t run⟩
      | false =>
        simp only [hs, Bool.false_eq_true, ↓reduceIte] at ha
        cases hm : Run.readLines t more run with
        | error rejection => rw [hm] at ha; cases ha
        | ok last =>
          rw [hm] at ha
          cases ha
          exact ⟨rfl, (Run.grows_readLines hm).trans (Run.grows_finish t last)⟩

/-- Ports are recorded at once, and a later vlan is filled up. -/
def portLog : String :=
  "Value Port (\\S+)\nValue Fillup Vlan (\\d+)\n\nStart\n  ^port ${Port} -> Record\n" ++
    "  ^vlan ${Vlan}\n  ^bad -> Error\n  ^done -> End\n"

def portLines : List (List Char) :=
  ["port a", "port b", "vlan 10", "done", "port c"].map String.toList

def badLines : List (List Char) := ["port a", "bad", "port b"].map String.toList

/-- Two ports without a vlan stay when the vlan comes, the line `done` is the last one that counts,
and the line `bad` is the end of it. -/
theorem parse_firstLines_portLog :
    ∃ t, Template.compile portLog = .ok t ∧
      (∃ (run : Run) (before after : Table), t.parse (firstLines portLines 2) = .ok before ∧
        t.parse (firstLines portLines 3) = .ok after ∧ run.rows.length = 2 ∧
        Grows t run.rows after.rows) ∧
      t.parse (firstLines portLines 5) = t.parse (firstLines portLines 4) ∧
      ∃ rejection, t.parse (firstLines badLines 2) = .error rejection ∧
        t.parse (firstLines badLines 3) = .error rejection := by
  have hc : ∃ t, Template.compile portLog = .ok t ∧
      (t.parse (firstLines portLines 2)).isOk = true ∧
      (t.parse (firstLines portLines 3)).isOk = true ∧
      (Run.readLines t (lines (firstLines portLines 2).toList) (Run.start t)).toOption.any
        (·.rows.length == 2) = true ∧
      (Run.readLines t (lines (firstLines portLines 4).toList) (Run.start t)).toOption.any
        (isStop ·.state) = true ∧
      (t.parse (firstLines badLines 2)).isOk = false :=
    exists_compile (by decide +kernel)
  obtain ⟨t, h, hok, hok', htwo, hdone, hbad⟩ := hc
  refine ⟨t, h, ?_, ?_, ?_⟩
  · cases hb : t.parse (firstLines portLines 2) with
    | error rejection => rw [hb] at hok; cases hok
    | ok before =>
      cases ha : t.parse (firstLines portLines 3) with
      | error rejection => rw [ha] at hok'; cases hok'
      | ok after =>
        obtain ⟨run, closing, hrun, -, -, -, -, hgrows⟩ :=
          (parse_firstLines t portLines (by decide : 2 ≤ 3)).2.2 before after hb ha
        rw [hrun] at htwo
        exact ⟨run, before, after, rfl, rfl, eq_of_beq htwo, hgrows⟩
  · cases hrun : Run.readLines t (lines (firstLines portLines 4).toList) (Run.start t) with
    | error rejection => rw [hrun] at hdone; cases hdone
    | ok run =>
      rw [hrun] at hdone
      exact (parse_firstLines t portLines (by decide : 4 ≤ 5)).2.1 run hrun hdone
  · cases hr : t.parse (firstLines badLines 2) with
    | ok table => rw [hr] at hbad; cases hbad
    | error rejection =>
      exact ⟨rejection, rfl, (parse_firstLines t badLines (by decide : 2 ≤ 3)).1 rejection hr⟩

end TemplateBench.TextFsm
