import TemplateBench.Proofs.Result
import TemplateBench.Ttp.Template
import Mathlib.Data.List.TakeWhile

/-!
The rows of a token pattern template, read off the text.

* `passages` cuts a text at the lines that open a row: a `Passage` is such a line with those after
  it, up to the next one. `divides_passages` says that nothing is lost and nothing counted twice.
* `cellOf` is the last text that a passage captures for a variable.
* `collect_pending`: the row under construction takes what is left of its passage, and no more.
* `parse_eq_passages`: so the rows of a template are the passages of its groups, in order.
-/
namespace TemplateBench.Ttp
open Text Decimal

/-! ## Numbers -/

/-- A decimal with an optional sign, whose value fits into sixty-four bits. -/
def IsInt64 (text : List Char) (n : Int) : Prop :=
  ∃ sign digits, text = sign ++ digits ∧ digits ≠ [] ∧ digits.all isAsciiDigit = true ∧
    ((sign = [] ∨ sign = ['+']) ∧ n = natOfDigits digits ∨
      sign = ['-'] ∧ n = -(natOfDigits digits : Int)) ∧
    -9223372036854775808 ≤ n ∧ n ≤ 9223372036854775807

/-- How a captured text is shown: as a number if its variable asks for one and the text writes one,
and otherwise as it is. -/
inductive Shows (v : Variable) (text : String) : Json → Prop
  | number {n : Int} : v.toInt = true → IsInt64 text.toList n → Shows v text (.int n)
  | verbatim : (v.toInt = true → ∀ n, ¬ IsInt64 text.toList n) → Shows v text (.string text)

namespace Line

/-- The digits after the sign decide. -/
theorem ranged_eq_some_iff (negative : Bool) (digits : List Char) (n : Int) :
    (if (digits.isEmpty || !digits.all isAsciiDigit) = true then none
      else
        let value : Int := if negative = true then -(natOfDigits digits : Int) else natOfDigits digits
        if (decide (-9223372036854775808 ≤ value) && decide (value ≤ 9223372036854775807)) = true
        then some value else none) = some n ↔
      digits ≠ [] ∧ digits.all isAsciiDigit = true ∧
        n = (if negative = true then -(natOfDigits digits : Int) else natOfDigits digits) ∧
        -9223372036854775808 ≤ n ∧ n ≤ 9223372036854775807 := by
  dsimp only
  generalize (if negative = true then -(natOfDigits digits : Int) else natOfDigits digits) = value
  by_cases hd : digits ≠ [] ∧ digits.all isAsciiDigit = true
  · obtain ⟨hne, hall⟩ := hd
    rw [if_neg (by simp [hne, hall])]
    simp only [Option.ite_none_right_eq_some, Bool.and_eq_true, decide_eq_true_eq, Option.some.injEq]
    constructor
    · rintro ⟨hrange, rfl⟩
      exact ⟨hne, hall, rfl, hrange⟩
    · rintro ⟨_, _, rfl, hrange⟩
      exact ⟨hrange, rfl⟩
  · rw [if_pos (by simpa [or_iff_not_imp_left] using hd)]
    constructor
    · intro h
      cases h
    · rintro ⟨hne, hall, _⟩
      exact absurd ⟨hne, hall⟩ hd

theorem int64?_eq_some_iff {text : List Char} {n : Int} : int64? text = some n ↔ IsInt64 text n := by
  unfold int64?
  split
  rename_i negative digits hsign
  refine (ranged_eq_some_iff negative digits n).trans ?_
  constructor
  · rintro ⟨hne, hall, hn, hrange⟩
    split at hsign <;> cases hsign
    · exact ⟨['-'], _, rfl, hne, hall, .inr ⟨rfl, hn⟩, hrange⟩
    · exact ⟨['+'], _, rfl, hne, hall, .inl ⟨.inr rfl, hn⟩, hrange⟩
    · exact ⟨[], _, rfl, hne, hall, .inl ⟨.inl rfl, hn⟩, hrange⟩
  · rintro ⟨sign, ds, rfl, hne, hall, ⟨rfl | rfl, hn⟩ | ⟨rfl, hn⟩, hrange⟩
    · -- A text without a sign begins with a digit, which is none.
      obtain ⟨d, rest, rfl⟩ := List.exists_cons_of_ne_nil hne
      have hd : isAsciiDigit d = true := (Bool.and_eq_true_iff.mp hall).1
      split at hsign
      · rename_i he
        cases he
        cases hd
      · rename_i he
        cases he
        cases hd
      · cases hsign
        exact ⟨hne, hall, hn, hrange⟩
    · cases hsign
      exact ⟨hne, hall, hn, hrange⟩
    · cases hsign
      exact ⟨hne, hall, hn, hrange⟩

theorem shows_valueOf (v : Variable) (text : String) : Shows v text (valueOf v text) := by
  unfold valueOf
  split
  · rename_i n hv hn
    exact .number hv (int64?_eq_some_iff.mp hn)
  · rename_i hnot
    exact .verbatim fun hv n hn => hnot n hv (int64?_eq_some_iff.mpr hn)

end Line

/-! ## Captures -/

/-- Whether a pattern line matches an input line. -/
def Line.matches (l : Line) (line : List Char) : Bool := (l.regex.find? line).isSome

/-- The texts that a pattern line which matches captures, with their variables; a group that takes
no part in the match captures none. -/
def Line.texts (l : Line) (line : List Char) : Option (List (Variable × String)) :=
  (l.regex.find? line).map fun m =>
    l.targets.zipIdx.filterMap fun (v, k) =>
      (((l.regex.namedGroups line m).lookup (groupName k)).join).map fun text => (v, text)

/-- A captured text under the name of its variable. -/
def named (captured : Variable × String) : String × Json :=
  (captured.1.name, Line.valueOf captured.1 captured.2)

theorem captures_eq (l : Line) (line : List Char) :
    l.captures line = (l.texts line).map (List.map named) := by
  unfold Line.captures Line.texts
  cases l.regex.find? line with
  | none => rfl
  | some m => simp [List.map_filterMap, named, Function.comp_def]

theorem texts_isSome (l : Line) (line : List Char) : (l.texts line).isSome = l.matches line := by
  simp [Line.texts, Line.matches]

/-! ## Passages -/

/-- A text line that opens a row, and the lines after it up to the next one that does. -/
structure Passage where
  opening : List Char
  body : List (List Char)
  deriving DecidableEq, Repr, Inhabited

def passages (opens : List Char → Bool) : List (List Char) → List Passage
  | [] => []
  | line :: rest =>
    if opens line then ⟨line, rest.takeWhile (!opens ·)⟩ :: passages opens rest
    else passages opens rest

/-- How passages divide a text: each line that opens has its own, in order, and each other line
stands in the passage of the nearest one before it, if there is one. -/
structure Divides (opens : List Char → Bool) (text : List (List Char)) (ps : List Passage) :
    Prop where
  openings : ps.map (·.opening) = text.filter opens
  bodies : ∀ p ∈ ps, ∀ line ∈ p.body, opens line = false
  lines : text = text.takeWhile (!opens ·) ++ ps.flatMap fun p => p.opening :: p.body

theorem divides_passages (opens : List Char → Bool) (text : List (List Char)) :
    Divides opens text (passages opens text) := by
  induction text with
  | nil => exact ⟨rfl, by simp [passages], rfl⟩
  | cons line rest ih =>
    by_cases ho : opens line = true
    · simp only [passages, ho, if_true]
      refine ⟨by simp [ho, ih.openings], ?_, ?_⟩
      · rintro p hp
        rcases List.mem_cons.mp hp with rfl | hp
        · intro body hbody
          simpa using List.mem_takeWhile_imp hbody
        · exact ih.bodies p hp
      · simpa [ho] using ih.lines
    · simp only [passages, ho]
      refine ⟨by simp [ho, ih.openings], ih.bodies, ?_⟩
      simpa [ho] using ih.lines

/-- What a passage captures: its opening by the first line of the group, each other line by the
first of the others that matches it. -/
def Passage.texts (first : Line) (others : List Line) (p : Passage) : List (Variable × String) :=
  (first.texts p.opening).getD [] ++
    p.body.flatMap fun line => (others.findSome? (·.texts line)).getD []

/-- The value of the text captured last for a variable, or the empty text. -/
def cellOf (captured : List (Variable × String)) (name : String) : Json :=
  match captured.reverse.find? (·.1.name == name) with
  | some (v, text) => Line.valueOf v text
  | none => .string ""

/-- What the passages of a text capture that the first line of a group opens. -/
def Group.passageTexts (g : Group) (text : List (List Char)) : List (List (Variable × String)) :=
  match g.lines with
  | [] => []
  | first :: others => (passages first.matches text).map (Passage.texts first others)

/-! ## Filling a row -/

theorem distinct_nodup (names : List String) : (distinct names).Nodup := by
  induction names with
  | nil => exact List.nodup_nil
  | cons n rest ih => exact List.nodup_cons.mpr ⟨by simp, ih.filter _⟩

/-- Every variable of a template that compiles has one column. -/
theorem compile_header_nodup {source : String} {t : Template}
    (h : Template.compile source = .ok t) : t.header.Nodup := by
  unfold Template.compile at h
  obtain ⟨d, _, h⟩ := bind_eq_ok_iff.mp h
  unfold Template.ofDraft at h
  split at h
  · cases h
  · dsimp only at h
    generalize (if d.loose.isEmpty then d.closed else ⟨anonymousName, d.loose⟩ :: d.closed) = groups
      at h
    split at h
    · cases h
    · cases h
      exact distinct_nodup _

variable {header : List String}

/-- Writing into the column of a variable changes the cell of that variable. -/
theorem set_column (h : header.Nodup) (f : String → Json) (name : String) (value : Json) :
    (match header.findIdx? (· == name) with
      | some column => (header.map f).set column value
      | none => header.map f) = header.map fun x => if x = name then value else f x := by
  induction header with
  | nil => rfl
  | cons x rest ih =>
    obtain ⟨hx, hrest⟩ := List.nodup_cons.mp h
    rw [List.findIdx?_cons]
    by_cases hn : x = name
    · subst hn
      have hsame : ∀ y ∈ rest, f y = if y = x then value else f y := by
        intro y hy
        rw [if_neg (fun he : y = x => hx (he ▸ hy))]
      simpa using List.map_congr_left hsame
    · have ih := ih hrest
      cases hfound : rest.findIdx? (· == name) with
      | none => simpa [hn, hfound] using ih
      | some column => simpa [hn, hfound] using ih

theorem fill_append (row : List Json) (captured more : List (String × Json)) :
    fill header row (captured ++ more) = fill header (fill header row captured) more :=
  List.foldl_append

/-- A column holds what has been captured last for its variable. -/
theorem fill_map (h : header.Nodup) (captured : List (String × Json)) :
    ∀ f : String → Json, fill header (header.map f) captured =
      header.map fun x => ((captured.reverse.find? (·.1 == x)).map (·.2)).getD (f x) := by
  induction captured with
  | nil => exact fun f => by simp [fill]
  | cons c rest ih =>
    obtain ⟨name, value⟩ := c
    intro f
    have hfirst : fill header (header.map f) ((name, value) :: rest) =
        fill header (header.map fun x => if x = name then value else f x) rest := by
      rw [← set_column h]
      rfl
    rw [hfirst, ih]
    apply List.map_congr_left
    intro x _
    rw [List.reverse_cons, List.find?_append]
    cases rest.reverse.find? (·.1 == x) with
    | some found => rfl
    | none =>
      by_cases hx : x = name
      · simp [hx]
      · simp [hx, Ne.symm hx]

theorem fill_emptyRow (h : header.Nodup) (captured : List (Variable × String)) :
    fill header (emptyRow header) (captured.map named) = header.map (cellOf captured) := by
  rw [emptyRow, fill_map h]
  apply List.map_congr_left
  intro x _
  rw [cellOf, ← List.map_reverse, List.find?_map]
  have hname : ((fun c : String × Json => c.1 == x) ∘ named) = fun c => c.1.name == x := rfl
  rw [hname]
  cases captured.reverse.find? (·.1.name == x) <;> rfl

/-! ## Rows -/

section
variable (first : Line) (others : List Line)

theorem collect_opening {line : List Char} {captured : List (Variable × String)}
    (h : first.texts line = some captured) (pending : Option (List Json)) (rest : List (List Char)) :
    collect header first others pending (line :: rest) = pending.toList ++
      collect header first others (some (fill header (emptyRow header) (captured.map named))) rest := by
  rw [collect, captures_eq, h]
  rfl

theorem collect_other {line : List Char} (h : first.texts line = none)
    (pending : Option (List Json)) (rest : List (List Char)) :
    collect header first others pending (line :: rest) =
      collect header first others (pending.map fun row =>
        fill header row (((others.findSome? (·.texts line)).getD []).map named)) rest := by
  rw [collect, captures_eq, h]
  have hothers : others.findSome? (·.captures line) =
      (others.findSome? (·.texts line)).map (List.map named) := by
    rw [List.map_findSome?]
    exact congrArg (List.findSome? · others) (funext fun l => captures_eq l line)
  simp only [Option.map_none, hothers]
  cases others.findSome? (·.texts line) <;> rfl

/-- The row under construction takes what is left of its passage, and then the next one begins. -/
theorem collect_pending (text : List (List Char)) :
    ∀ row, collect header first others (some row) text =
      fill header row (((text.takeWhile (!first.matches ·)).flatMap fun line =>
        (others.findSome? (·.texts line)).getD []).map named) ::
        collect header first others none text := by
  induction text with
  | nil => exact fun row => rfl
  | cons line rest ih =>
    intro row
    have hmatches := texts_isSome first line
    cases ht : first.texts line with
    | some captured =>
      rw [collect_opening first others ht, collect_opening first others ht]
      simp [← hmatches, ht, fill]
    | none =>
      rw [collect_other first others ht, collect_other first others ht]
      simp [← hmatches, ht, ih, fill_append]

theorem collect_eq_passages (h : header.Nodup) (text : List (List Char)) :
    collect header first others none text =
      (passages first.matches text).map fun p => header.map (cellOf (p.texts first others)) := by
  induction text with
  | nil => rfl
  | cons line rest ih =>
    have hmatches := texts_isSome first line
    cases ht : first.texts line with
    | some captured =>
      have hopens : first.matches line = true := by
        rw [← hmatches, ht]
        rfl
      rw [collect_opening first others ht, collect_pending, ← fill_append, ← List.map_append,
        fill_emptyRow h, ih]
      simp [passages, hopens, Passage.texts, ht]
    | none =>
      have hquiet : first.matches line = false := by
        rw [← hmatches, ht]
        rfl
      rw [collect_other first others ht]
      simpa [passages, hquiet] using ih

end

/-- **Rows of a text.** A template that compiles makes of a text one row for each passage that the
first line of a group opens, group by group. A cell holds what the passage captures last for the
variable of its column, as a number where that is asked for and possible. -/
theorem parse_eq_passages {source : String} {t : Template} (h : Template.compile source = .ok t)
    (text : String) :
    t.parse text =
      ⟨t.header, t.groups.flatMap fun g =>
        (g.passageTexts (lines text.toList)).map fun captured => t.header.map (cellOf captured)⟩ ∧
    (∀ first : Line, Divides first.matches (lines text.toList)
      (passages first.matches (lines text.toList))) ∧
    ∀ v captured, Shows v captured (Line.valueOf v captured) := by
  refine ⟨?_, fun first => divides_passages _ _, Line.shows_valueOf⟩
  have hrows : ∀ g : Group, g.rows t.header (lines text.toList) =
      (g.passageTexts (lines text.toList)).map fun captured => t.header.map (cellOf captured) := by
    intro g
    unfold Group.rows Group.passageTexts
    cases g.lines with
    | nil => rfl
    | cons first others =>
      rw [List.map_map]
      exact collect_eq_passages first others (compile_header_nodup h) _
  simp only [Template.parse, hrows]

/-- A note belongs to the port before it, and the last note counts. -/
def portNotes : String :=
  "<group name=\"ports\">\nport {{ port }} vlan {{ vlan | DIGIT | to_int }}\n" ++
    "note {{ note | ORPHRASE }}\n</group>\n"

def portNotesInput : String :=
  "note stray\nport p1 vlan 10\nnote old\n!\nnote to core\nport p2 vlan 20\n"

theorem parse_eq_passages_portNotes :
    ∃ t, Template.compile portNotes = .ok t ∧
      t.parse portNotesInput =
        ⟨["port", "vlan", "note"], [[.string "p1", .int 10, .string "to core"],
          [.string "p2", .int 20, .string ""]]⟩ := by
  have hc : ∃ t, Template.compile portNotes = .ok t ∧ t.header = ["port", "vlan", "note"] ∧
      t.groups.flatMap (·.passageTexts (lines portNotesInput.toList)) =
        [[(⟨"port", false⟩, "p1"), (⟨"vlan", true⟩, "10"), (⟨"note", false⟩, "old"),
            (⟨"note", false⟩, "to core")],
          [(⟨"port", false⟩, "p2"), (⟨"vlan", true⟩, "20")]] := exists_ok (by decide +kernel)
  obtain ⟨t, h, hheader, htexts⟩ := hc
  refine ⟨t, h, ?_⟩
  rw [(parse_eq_passages h portNotesInput).1, hheader, ← List.map_flatMap, htexts]
  rfl

end TemplateBench.Ttp
