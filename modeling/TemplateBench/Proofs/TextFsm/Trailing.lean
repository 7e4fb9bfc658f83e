import TemplateBench.Proofs.TextFsm.Actions
import TemplateBench.Proofs.TextFsm.Compiled

/-!
White space at the ends of the lines of a template.

* `ofLines_map_trimEnd`, `compile_append_newline`: none is looked at, nor is the last line feed.
* `isComment_trimEnd`, `isRuleLine_trimEnd`, `parse_append_blanks`: what a line is read as does not
  change.
* `trimEnd_of_parse`: an accepted line of a value has none.
* `Declares`: a line that declares a value, and how it is read where values or states are.
-/
namespace TemplateBench.TextFsm
open Text

/-! ## What the readers are given -/

/-- Lines numbered from `k` on. -/
def numberFrom (k : Nat) (ls : List (List Char)) : List NumberedLine :=
  (ls.zipIdx k).map fun (line, number) => (number, line)

@[simp] theorem numberFrom_nil (k : Nat) : numberFrom k [] = [] := rfl

@[simp] theorem numberFrom_cons (k : Nat) (line : List Char) (ls : List (List Char)) :
    numberFrom k (line :: ls) = (k, line) :: numberFrom (k + 1) ls := by
  simp [numberFrom]

theorem numberFrom_append (k : Nat) (ls more : List (List Char)) :
    numberFrom k (ls ++ more) = numberFrom k ls ++ numberFrom (k + ls.length) more := by
  simp [numberFrom, List.zipIdx_append]

/-- Compiles lines instead of a text. -/
def Template.ofLines (ls : List (List Char)) : Except TemplateError Template := do
  let (values, rest) ← readValues [] (numberFrom 1 ls)
  let states ← readStates (templatesOf values) none [] rest
  Template.check ⟨values, states⟩

theorem compile_eq_ofLines {text : String} (h : text ≠ "") :
    Template.compile text = Template.ofLines (lines text.toList) := by
  have hempty : text.isEmpty = false := by
    simpa [String.isEmpty_iff] using h
  simp only [Template.compile, hempty, Bool.false_eq_true, ↓reduceIte]
  rfl

def trimmedEnd (line : NumberedLine) : NumberedLine := (line.1, trimEnd line.2)

theorem numberFrom_map_trimEnd (ls : List (List Char)) :
    ∀ k, numberFrom k (ls.map trimEnd) = (numberFrom k ls).map trimmedEnd := by
  induction ls with
  | nil => intro k; rfl
  | cons line ls ih =>
    intro k
    simp [ih, trimmedEnd]

theorem readValues_map_trimmedEnd (lines : List NumberedLine) :
    ∀ values, readValues values (lines.map trimmedEnd) =
      (readValues values lines).map fun read => (read.1, read.2.map trimmedEnd) := by
  induction lines with
  | nil => intro values; rfl
  | cons line rest ih =>
    obtain ⟨number, raw⟩ := line
    intro values
    simp only [List.map_cons, trimmedEnd, readValues, trimEnd_trimEnd]
    split
    · rfl
    · split
      · exact ih values
      · split
        · split
          · rfl
          · split
            · rfl
            · exact ih _
        · split <;> rfl

theorem readStates_map_trimmedEnd (templates : Templates) (lines : List NumberedLine) :
    ∀ current states, readStates templates current states (lines.map trimmedEnd) =
      readStates templates current states lines := by
  induction lines with
  | nil => intro current states; rfl
  | cons line rest ih =>
    obtain ⟨number, raw⟩ := line
    intro current states
    cases current <;> simp only [List.map_cons, trimmedEnd, readStates, trimEnd_trimEnd, ih]

/-- White space at the ends of lines does not matter. -/
theorem ofLines_map_trimEnd (ls : List (List Char)) :
    Template.ofLines (ls.map trimEnd) = Template.ofLines ls := by
  unfold Template.ofLines
  rw [numberFrom_map_trimEnd, readValues_map_trimmedEnd]
  cases readValues [] (numberFrom 1 ls) with
  | error e => rfl
  | ok read =>
    simp only [Except.map, bind, Except.bind, readStates_map_trimmedEnd]

theorem readValues_append_blank (lines : List NumberedLine) (number : Nat) :
    ∀ values, ∃ extra, (extra = [] ∨ extra = [(number, [])]) ∧
      readValues values (lines ++ [(number, [])]) =
        (readValues values lines).map fun read => (read.1, read.2 ++ extra) := by
  induction lines with
  | nil => intro values; exact ⟨[], Or.inl rfl, rfl⟩
  | cons line rest ih =>
    obtain ⟨n, raw⟩ := line
    intro values
    simp only [List.cons_append, readValues]
    split
    · exact ⟨[(number, [])], Or.inr rfl, rfl⟩
    · split
      · exact ih values
      · split
        · split
          · exact ⟨[], Or.inl rfl, rfl⟩
          · split
            · exact ⟨[], Or.inl rfl, rfl⟩
            · exact ih _
        · split <;> exact ⟨[], Or.inl rfl, rfl⟩

theorem readStates_append_blank (templates : Templates) (lines : List NumberedLine) (number : Nat) :
    ∀ current states, readStates templates current states (lines ++ [(number, [])]) =
      readStates templates current states lines := by
  induction lines with
  | nil =>
    intro current states
    cases current <;> simp [readStates, trimEnd]
  | cons line rest ih =>
    obtain ⟨n, raw⟩ := line
    intro current states
    cases current <;> simp only [List.cons_append, readStates, ih]

theorem ofLines_append_blank (ls : List (List Char)) :
    Template.ofLines (ls ++ [[]]) = Template.ofLines ls := by
  unfold Template.ofLines
  obtain ⟨extra, hextra, hread⟩ := readValues_append_blank (numberFrom 1 ls) (1 + ls.length) []
  rw [numberFrom_append, numberFrom_cons, numberFrom_nil, hread]
  cases readValues [] (numberFrom 1 ls) with
  | error e => rfl
  | ok read =>
    have hstates : readStates (templatesOf read.1) none [] (read.2 ++ extra) =
        readStates (templatesOf read.1) none [] read.2 := by
      rcases hextra with rfl | rfl
      · rw [List.append_nil]
      · exact readStates_append_blank _ _ _ _ _
    simp only [Except.map, bind, Except.bind, hstates]

/-- The line feed that ends the last line may be missing. -/
theorem compile_append_newline {text : String} (h : text ≠ "") :
    Template.compile (text ++ "\n") = Template.compile text := by
  have hne : text ++ "\n" ≠ "" := by
    intro he
    have hlist := congrArg String.toList he
    simp at hlist
  have hlist : (text ++ "\n").toList = text.toList ++ ['\n'] := by simp
  rw [compile_eq_ofLines h, compile_eq_ofLines hne, hlist]
  rcases lines_append_newline text.toList with he | ⟨init, last, he, he'⟩
  · rw [he, ofLines_append_blank]
  · rw [he, he', ← ofLines_map_trimEnd, ← ofLines_map_trimEnd (init ++ [last])]
    simp [trimEnd_dropReturn]

/-! ## Kinds of lines -/

theorem isComment_trimEnd (line : List Char) : isComment (trimEnd line) = isComment line := by
  rw [isComment, head?_trimStart_trimEnd, isComment]

theorem isRuleLine_trimEnd (line : List Char) : isRuleLine (trimEnd line) = isRuleLine line := by
  have hcaret : isBlank '^' = false := by decide
  have hone := startsWith_trimEnd hcaret [' '] line
  have htwo := startsWith_trimEnd hcaret [' ', ' '] line
  have htab := startsWith_trimEnd hcaret ['\t'] line
  simp only [List.cons_append, List.nil_append] at hone htwo htab
  rw [isRuleLine, hone, htwo, htab, isRuleLine]

/-- A rule is a caret behind white space. -/
theorem exists_of_isRuleLine {line : List Char} (h : isRuleLine line = true) :
    (∃ c rest, line = c :: rest ∧ isBlank c = true) ∧ (trimStart line).head? = some '^' := by
  simp only [isRuleLine, Bool.or_eq_true] at h
  rcases h with (h | h) | h <;> obtain ⟨rest, rfl⟩ := startsWith_iff.mp h <;>
    exact ⟨⟨_, _, rfl, by decide⟩, rfl⟩

theorem isRuleLine_of_isComment {line : List Char} (h : isComment line = true) :
    isRuleLine line = false := by
  rw [Bool.eq_false_iff]
  intro hr
  rw [isComment, (exists_of_isRuleLine hr).2] at h
  cases h

theorem isComment_of_isRuleLine {line : List Char} (h : isRuleLine line = true) :
    isComment line = false := by
  rw [isComment, (exists_of_isRuleLine h).2]
  rfl

theorem isRuleLine_of_not_isBlank {c : Char} (h : isBlank c = false) (rest : List Char) :
    isRuleLine (c :: rest) = false := by
  rw [Bool.eq_false_iff]
  intro hr
  obtain ⟨⟨_, _, he, hb⟩, _⟩ := exists_of_isRuleLine hr
  cases he
  rw [h] at hb
  cases hb

theorem trimEnd_ne_nil_of_isComment {line : List Char} (h : isComment line = true) :
    trimEnd line ≠ [] := by
  intro hnil
  rw [← isComment_trimEnd, hnil] at h
  cases h

theorem trimEnd_ne_nil_of_isRuleLine {line : List Char} (h : isRuleLine line = true) :
    trimEnd line ≠ [] := by
  intro hnil
  rw [← isRuleLine_trimEnd, hnil] at h
  cases h

/-! ## Names -/

theorem isStateName_of_isUsableStateName {cs : List Char} (h : isUsableStateName cs = true) :
    isStateName cs = true := by
  simp only [isUsableStateName, Bool.and_eq_true] at h
  exact h.1.1

theorem isWord_of_isUsableStateName {cs : List Char} (h : isUsableStateName cs = true) :
    cs ≠ [] ∧ ∀ c ∈ cs, isWord c = true :=
  isStateName_iff.mp (isStateName_of_isUsableStateName h)

/-! ## Lines of values -/

theorem isWrapped_of_ofParts {options : List ValueOption} {name : String} {regex : List Char}
    {d : Declaration} (h : Declaration.ofParts options name regex = .ok d) :
    isWrapped regex = true :=
  (ofParts_eq_ok_iff.mp h).2.2.1

theorem exists_of_isWrapped {regex : List Char} (h : isWrapped regex = true) :
    ∃ inner, regex = inner ++ [')'] := by
  simp only [isWrapped, Bool.and_eq_true] at h
  obtain ⟨rest, hrest⟩ := startsWith_iff.mp h.1.2
  exact ⟨rest.reverse, by simpa using congrArg List.reverse hrest.symm⟩

/-- A line that declares a value ends in the parenthesis of its regex. -/
theorem exists_of_parse {line : List Char} {d : Declaration}
    (h : Declaration.parse (String.ofList line) = .ok d) : ∃ front, line = front ++ [')'] := by
  obtain ⟨options, name, front, regex, hd, _, hline⟩ := parse_steps h
  obtain ⟨inner, rfl⟩ := exists_of_isWrapped (isWrapped_of_ofParts hd)
  rw [String.toList_ofList, ← List.append_assoc] at hline
  exact ⟨front ++ inner, hline⟩

theorem trimEnd_of_parse {line : List Char} {d : Declaration}
    (h : Declaration.parse (String.ofList line) = .ok d) : trimEnd line = line := by
  obtain ⟨front, rfl⟩ := exists_of_parse h
  exact trimEnd_append_of_not_isBlank (by decide) front

theorem readValues_blank {raw : List Char} (h : trimEnd raw = []) (values : List Declaration)
    (k : Nat) (rest : List NumberedLine) :
    readValues values ((k, raw) :: rest) = .ok (values, rest) := by
  simp [readValues, h]

theorem readValues_comment {raw : List Char} (h : isComment raw = true)
    (values : List Declaration) (k : Nat) (rest : List NumberedLine) :
    readValues values ((k, raw) :: rest) = readValues values rest := by
  simp [readValues, isComment_trimEnd, h, trimEnd_ne_nil_of_isComment h]

/-- A line of a template that declares a value. -/
structure Declares (line : List Char) (d : Declaration) : Prop where
  begins : startsWith (trimEnd line) "Value ".toList = true
  parses : Declaration.parse (String.ofList (trimEnd line)) = .ok d

namespace Declares

variable {line : List Char} {d : Declaration}

theorem exists_eq (h : Declares line d) :
    ∃ rest, trimEnd line = "Value".toList ++ ' ' :: rest := by
  obtain ⟨rest, hrest⟩ := startsWith_iff.mp h.begins
  exact ⟨rest, hrest.symm⟩

/-- Where values are read, it adds its value unless there is one of that name. -/
theorem readValues_cons (h : Declares line d) (values : List Declaration) (k : Nat)
    (rest : List NumberedLine) :
    readValues values ((k, line) :: rest) =
      if values.any (·.name == d.name) then .error (.duplicateValue d.name k)
      else readValues (values ++ [d]) rest := by
  obtain ⟨tail, htail⟩ := h.exists_eq
  have hempty : (trimEnd line).isEmpty = false := by rw [htail]; rfl
  have hcomment : isComment (trimEnd line) = false := by rw [htail]; rfl
  rw [readValues]
  simp only [hempty, hcomment, h.begins, h.parses, Bool.false_eq_true, ↓reduceIte]

/-- Where states are read, it is neither a name nor a rule. -/
theorem readStates_cons (h : Declares line d) (templates : Templates)
    (current : Option (String × List Rule)) (states : List (String × List Rule)) (k : Nat)
    (rest : List NumberedLine) :
    ∃ e, readStates templates current states ((k, line) :: rest) = .error e := by
  obtain ⟨tail, htail⟩ := h.exists_eq
  have hempty : (trimEnd line).isEmpty = false := by rw [htail]; rfl
  have hcomment : isComment (trimEnd line) = false := by rw [htail]; rfl
  have hname : isUsableStateName (trimEnd line) = false := by
    rw [htail, Bool.eq_false_iff]
    intro hname
    exact absurd ((isWord_of_isUsableStateName hname).2 ' ' (by simp)) (by decide)
  have hrule : isRuleLine (trimEnd line) = false := by
    rw [htail]
    exact isRuleLine_of_not_isBlank (by decide) _
  cases current with
  | none =>
    exact ⟨.badStateName (String.ofList (trimEnd line)) k,
      by simp [readStates, hempty, hcomment, hname]⟩
  | some state => exact ⟨.notIndented k, by simp [readStates, hempty, hcomment, hrule]⟩

end Declares

/-- What a line can be where values are read: the blank one that ends them, a comment, or one that
declares a value of a new name. -/
theorem readValues_cases {values : List Declaration} {k : Nat} {raw : List Char}
    {rest : List NumberedLine} {read : List Declaration × List NumberedLine}
    (h : readValues values ((k, raw) :: rest) = .ok read) :
    (trimEnd raw = [] ∧ read = (values, rest)) ∨
    (isComment raw = true ∧ readValues values rest = .ok read) ∨
    ∃ d, Declares raw d ∧ values.any (·.name == d.name) = false ∧
      readValues (values ++ [d]) rest = .ok read := by
  simp only [readValues] at h
  split at h
  · rename_i hblank
    cases h
    exact .inl ⟨by simpa using hblank, rfl⟩
  · split at h
    · rename_i hcomment
      rw [isComment_trimEnd] at hcomment
      exact .inr (.inl ⟨hcomment, h⟩)
    · split at h
      · rename_i hbegins
        split at h
        · cases h
        · rename_i d hd
          split at h
          · cases h
          · rename_i hnew
            exact .inr (.inr ⟨d, ⟨hbegins, hd⟩, by simpa using hnew, h⟩)
      · split at h <;> cases h

/-! ## Lines of rules -/

theorem parse_append_blanks (templates : Templates) (line : List Char) {blanks : List Char}
    (h : Blanks blanks) (number : Nat) :
    Rule.parse templates (String.ofList (trimEnd (line ++ blanks))) number =
      Rule.parse templates (String.ofList line) number := by
  simp only [Rule.parse, String.toList_ofList, trimEnd_append_blanks line h, trim_trimEnd]

/-- The number of a line is only kept. -/
theorem parse_renumber {templates : Templates} {line : String} {number : Nat} {rule : Rule}
    (h : Rule.parse templates line number = .ok rule) (k : Nat) :
    Rule.parse templates line k = .ok { rule with lineNumber := k } := by
  rw [parse_eq_ok_iff] at h ⊢
  obtain ⟨hne, hregex, haction, hpattern, _⟩ := h
  exact ⟨hne, hregex, haction, hpattern, rfl⟩

end TemplateBench.TextFsm
