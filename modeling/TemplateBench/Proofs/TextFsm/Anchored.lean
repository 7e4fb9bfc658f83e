import TemplateBench.Proofs.Regex.Grouped
import TemplateBench.Proofs.Regex.Start
import TemplateBench.Proofs.TextFsm.Compiled

/-!
Where the expressions of a template match.

* `compileAnchored_pattern`: an expression that stands on its own is one unit in its anchored form.
* `parse_nested`: so is the expression of a value, for it has to stand on its own.
* `parse_anchored`: so is the pattern of a rule if it stands on its own.
* `parse_unbalanced`: a rule whose pattern does not may match behind the start of a line.
-/
namespace TemplateBench.TextFsm
open Text
open Regex (read_of_compile matchAt_start_eq)

/-- The anchored form of an expression that stands on its own is that expression as one unit, behind
the assertion that the text starts there. -/
theorem compileAnchored_pattern {written : String} {alone tied : Regex}
    (h : Regex.compile written = .ok alone) (ht : compileAnchored written = .ok tied) :
    tied.pattern = Regex.behindStart alone.pattern ∧ tied.groups = alone.groups := by
  have hread := read_of_compile ht
  have htext : (anchored written).toList = '^' :: '(' :: '?' :: ':' :: (written.toList ++ [')']) := by
    simp [anchored]
  rw [htext] at hread
  have he := Regex.read_anchored (read_of_compile h) hread
  exact ⟨congrArg Regex.Expression.pattern he, congrArg Regex.Expression.groups he⟩

theorem compileAnchored_find? {written : String} {alone tied : Regex}
    (h : Regex.compile written = .ok alone) (ht : compileAnchored written = .ok tied)
    (text : List Char) : tied.find? text = Regex.matchAt alone.pattern 0 none text := by
  rw [Regex.find?, (compileAnchored_pattern h ht).1, Regex.findFrom_start]

/-! ## Values -/

theorem ofParts_nested {options : List ValueOption} {name : String} {regex : List Char}
    {d : Declaration} {nested : Regex} (h : Declaration.ofParts options name regex = .ok d)
    (hn : d.nested = some nested) :
    ∃ alone, Regex.compile d.regex = .ok alone ∧ compileAnchored d.regex = .ok nested := by
  obtain ⟨_, _, _, alone, tied, halone, htied, rfl⟩ := ofParts_eq_ok_iff.mp h
  obtain rfl : tied = some nested := hn
  exact ⟨alone, halone, htied.2⟩

/-- The nested expression of a value matches at the start of a capture or not at all: it is the
regex of the value, which has to stand on its own, as one unit. -/
theorem parse_nested {line : String} {d : Declaration} (h : Declaration.parse line = .ok d)
    {nested : Regex} (hn : d.nested = some nested) :
    ∃ alone, Regex.compile d.regex = .ok alone ∧ nested.groups = alone.groups ∧
      ∀ text, nested.find? text = Regex.matchAt alone.pattern 0 none text := by
  obtain ⟨options, name, front, regex, hd, _, _⟩ := parse_steps h
  obtain ⟨alone, halone, htied⟩ := ofParts_nested hd hn
  exact ⟨alone, halone, (compileAnchored_pattern halone htied).2, compileAnchored_find? halone htied⟩

/-! ## Rules -/

theorem compilePattern_steps {templates : Templates} {pattern : List Char} {regex : Regex}
    (h : compilePattern templates pattern = .ok regex) :
    ∃ expanded, expand templates pattern = .ok expanded ∧
      compileAnchored (String.ofList expanded) = .ok regex := by
  unfold compilePattern at h
  split at h
  · cases h
  · rename_i expanded hexpanded
    split at h
    · cases h
    · rename_i tied htied
      cases h
      exact ⟨expanded, hexpanded, htied⟩

/-- **Anchored rules.** If the pattern of a rule stands on its own once its placeholders are
expanded, the rule matches it as one unit at the start of the line, and nowhere else. -/
theorem parse_anchored {templates : Templates} {line : String} {number : Nat} {rule : Rule}
    (h : Rule.parse templates line number = .ok rule) :
    ∃ expanded, expand templates (writtenPattern (trim line.toList)) = .ok expanded ∧
      ∀ alone, Regex.compile (String.ofList expanded) = .ok alone →
        rule.regex.groups = alone.groups ∧
        ∀ text, rule.regex.find? text = Regex.matchAt alone.pattern 0 none text ∧
          ∀ m, rule.regex.find? text = some m → m.start = 0 := by
  obtain ⟨_, hregex, _⟩ := parse_eq_ok_iff.mp h
  obtain ⟨expanded, hexpanded, htied⟩ := compilePattern_steps hregex
  refine ⟨expanded, hexpanded, fun alone halone => ?_⟩
  have hfind := compileAnchored_find? halone htied
  refine ⟨(compileAnchored_pattern halone htied).2, fun text => ⟨hfind text, fun m hm => ?_⟩⟩
  rw [hfind] at hm
  exact matchAt_start_eq hm

def portTemplates : Templates := [("Port", "(?P<Port>\\d+)")]

/-- A bar in the pattern does not reach past the anchor. -/
theorem parse_anchored_ports :
    ∃ rule alone, Rule.parse portTemplates "  ^port ${Port}|up -> Record" 3 = .ok rule ∧
      Regex.compile "^port (?P<Port>\\d+)|up" = .ok alone ∧
      ∀ text, rule.regex.find? text = Regex.matchAt alone.pattern 0 none text ∧
        ∀ m, rule.regex.find? text = some m → m.start = 0 := by
  obtain ⟨rule, hrule⟩ : ∃ rule,
      Rule.parse portTemplates "  ^port ${Port}|up -> Record" 3 = .ok rule :=
    ⟨_, eq_ok_getD (by decide +kernel)⟩
  obtain ⟨alone, halone⟩ : ∃ alone, Regex.compile "^port (?P<Port>\\d+)|up" = .ok alone :=
    ⟨_, eq_ok_getD (by decide +kernel)⟩
  obtain ⟨expanded, hexpanded, hanchored⟩ := parse_anchored hrule
  have htext : String.ofList expanded = "^port (?P<Port>\\d+)|up" := by
    have hcomputed : (expand portTemplates (writtenPattern (trim
        "  ^port ${Port}|up -> Record".toList))).toOption.map String.ofList =
        some "^port (?P<Port>\\d+)|up" := by decide +kernel
    rw [hexpanded] at hcomputed
    exact Option.some.inj hcomputed
  exact ⟨rule, alone, hrule, halone, (hanchored alone (htext ▸ halone)).2⟩

/-- A pattern that closes the group around it and opens another one is accepted, and its second
branch matches behind the start of the line. -/
theorem parse_unbalanced :
    ∃ rule m, Rule.parse [] "  ^x)|(?:y" 1 = .ok rule ∧ rule.regex.source = "^(?:^x)|(?:y)" ∧
      rule.regex.find? "ay".toList = some m ∧ m.start = 1 := by
  have hcomputed : ((Rule.parse [] "  ^x)|(?:y" 1).toOption.any fun rule =>
      rule.regex.source == "^(?:^x)|(?:y)" &&
        (rule.regex.find? "ay".toList).any (·.start == 1)) = true := by decide +kernel
  obtain ⟨rule, hrule, hmatch⟩ := (Option.any_eq_true _ _).mp hcomputed
  rw [Bool.and_eq_true] at hmatch
  obtain ⟨m, hm, hstart⟩ := (Option.any_eq_true _ _).mp hmatch.2
  exact ⟨rule, m, eq_ok_of_toOption hrule, eq_of_beq hmatch.1, hm, eq_of_beq hstart⟩

end TemplateBench.TextFsm
