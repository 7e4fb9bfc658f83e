import TemplateBench.Display
import TemplateBench.Proofs.Text.Written

/-!
Compact JSON stands on one line.

* `oneLine_intText`, `Layout.oneLine_write`: a number has digits, a sign, a point and an exponent.
* `oneLine_quoted`: in a quoted text a line feed is escaped, as are all other control characters.
* `oneLine_compact`: so no compact text has a line feed, whatever its texts and names have.
* `oneLine_cellText`: a cell has one line unless it is a text with several.
-/
namespace TemplateBench
open Text

/-! ## Numbers -/

namespace Decimal

theorem not_mem_digitsFrom (fuel n : Nat) {acc : List Char} (h : '\n' ∉ acc) :
    '\n' ∉ digitsFrom fuel n acc := by
  have hdigit : ∀ k < 10, digitChar k ≠ '\n' := by decide
  fun_induction digitsFrom fuel n acc with
  | case1 => exact h
  | case2 fuel n acc hlast => simpa [h] using (hdigit n hlast).symm
  | case3 fuel n acc _ ih =>
    exact ih (by simpa [h] using (hdigit (n % 10) (Nat.mod_lt n (by decide))).symm)

theorem not_mem_digits (n : Nat) : '\n' ∉ digits n := not_mem_digitsFrom _ n List.not_mem_nil

theorem oneLine_natText (n : Nat) : OneLine (natText n) := oneLine_ofList.mpr (not_mem_digits n)

theorem oneLine_intText (n : Int) : OneLine (intText n) := by
  cases n with
  | ofNat n => exact oneLine_natText n
  | negSucc n => exact oneLine_append.mpr ⟨by decide, oneLine_natText (n + 1)⟩

theorem not_mem_positional (point : Bool) {ds : List Char} (h : '\n' ∉ ds) (before : Int) :
    '\n' ∉ positional point ds before := by
  have htake : '\n' ∉ ds.take before.toNat := fun hm => h (List.mem_of_mem_take hm)
  have hdrop : '\n' ∉ ds.drop before.toNat := fun hm => h (List.mem_of_mem_drop hm)
  unfold positional
  split
  · simp [h]
  · dsimp only
    split
    · cases point <;> simp [h]
    · simp [htake, hdrop]

theorem not_mem_scientific {ds : List Char} (h : '\n' ∉ ds) (before : Int) :
    '\n' ∉ scientific ds before := by
  have hpower : '\n' ∉ (intText (before - 1)).toList := oneLine_intText _
  unfold scientific
  split <;> simp_all

theorem Layout.oneLine_write {l : Layout} (hnan : OneLine l.nan) (hinfinity : OneLine l.infinity)
    (x : Float) : OneLine (l.write x) := by
  unfold write
  split
  · exact hnan
  · split
    · exact oneLine_append.mpr ⟨by decide, hinfinity⟩
    · exact hinfinity
  · rename_i d _
    have hds := not_mem_digits (shortest d).digits
    have hpositional := not_mem_positional l.point hds
    have hscientific := not_mem_scientific hds
    rw [oneLine_ofList]
    repeat' split
    all_goals simp_all

end Decimal

namespace Json
open Decimal

theorem oneLine_floatText (x : Float) : OneLine (floatText x) := by
  unfold floatText
  split
  · exact Layout.oneLine_write (by decide) (by decide) x
  · decide

/-! ## Texts -/

theorem not_mem_escapeChar (c : Char) : '\n' ∉ escapeChar c := by
  have hhex : ∀ k < 16, hexDigit k ≠ '\n' := by decide
  unfold escapeChar
  split
  case h_8 _ _ _ _ hfeed _ _ =>
    split
    · rename_i hlt
      have hhigh := hhex (c.toNat / 16) (by omega)
      have hlow := hhex (c.toNat % 16) (Nat.mod_lt _ (by decide))
      simp [hhigh.symm, hlow.symm]
    · simpa using Ne.symm hfeed
  all_goals decide

theorem oneLine_quoted (s : String) : OneLine (quoted s) := by
  have hescaped : '\n' ∉ s.toList.flatMap escapeChar := by
    intro hm
    obtain ⟨c, _, hc⟩ := List.mem_flatMap.mp hm
    exact not_mem_escapeChar c hc
  exact oneLine_ofList.mpr (by simp [hescaped])

/-! ## Values -/

mutual

/-- A value is shown on one line. -/
theorem oneLine_compact : ∀ v : Json, OneLine v.compact
  | .null => by decide
  | .bool true => by decide
  | .bool false => by decide
  | .int n => oneLine_intText n
  | .float x => oneLine_floatText x
  | .string s => oneLine_quoted s
  | .array items => by
    simp only [compact, oneLine_append]
    exact ⟨⟨by decide, oneLine_compactItems items⟩, by decide⟩
  | .object members => by
    simp only [compact, oneLine_append]
    exact ⟨⟨by decide, oneLine_compactMembers members⟩, by decide⟩

theorem oneLine_compactItems : ∀ items : List Json, OneLine (compactItems items)
  | [] => by decide
  | [v] => oneLine_compact v
  | v :: w :: rest => by
    simp only [compactItems, oneLine_append]
    exact ⟨⟨oneLine_compact v, by decide⟩, oneLine_compactItems (w :: rest)⟩

theorem oneLine_compactMembers : ∀ members : List (String × Json), OneLine (compactMembers members)
  | [] => by decide
  | [(n, v)] => by
    simp only [compactMembers, oneLine_append]
    exact ⟨⟨oneLine_quoted n, by decide⟩, oneLine_compact v⟩
  | (n, v) :: m :: rest => by
    simp only [compactMembers, oneLine_append]
    exact ⟨⟨⟨⟨oneLine_quoted n, by decide⟩, oneLine_compact v⟩, by decide⟩,
      oneLine_compactMembers (m :: rest)⟩

end

end Json

/-! ## Cells -/

/-- Only a text can have a line feed in its cell. -/
theorem oneLine_cellText {v : Json} (h : ∀ s, v = .string s → OneLine s) :
    OneLine (cellText v) := by
  cases v with
  | string s => exact h s rfl
  | _ => exact Json.oneLine_compact _

end TemplateBench
