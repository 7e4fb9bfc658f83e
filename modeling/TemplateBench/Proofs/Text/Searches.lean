import Mathlib.Data.List.Infix
import TemplateBench.Text.Lines

/-!
Searches in a text say where it has a part: at its beginning, at its end, or anywhere, and what is
left of it behind its beginning. A part that lacks an element of a text is on one side of it
(`infix_append_cons`).
-/
namespace TemplateBench.Text

theorem dropFront_eq_some_iff {front : List Char} :
    ∀ {cs rest : List Char}, dropFront front cs = some rest ↔ cs = front ++ rest := by
  induction front with
  | nil =>
    intro cs rest
    simp [dropFront]
  | cons p front ih =>
    intro cs rest
    cases cs with
    | nil => simp [dropFront]
    | cons c cs =>
      by_cases hp : p = c
      · simp [dropFront, hp, ih]
      · simp [dropFront, hp, Ne.symm hp]

theorem startsWith_iff {cs : List Char} : ∀ {front : List Char},
    startsWith cs front = true ↔ front <+: cs := by
  induction cs with
  | nil =>
    intro front
    cases front <;> simp [startsWith, dropFront]
  | cons c cs ih =>
    intro front
    cases front with
    | nil => simp [startsWith, dropFront]
    | cons p front =>
      rw [List.cons_prefix_cons, ← ih]
      by_cases hp : p = c <;> simp [startsWith, dropFront, hp]

theorem endsWith_iff {cs back : List Char} : endsWith cs back = true ↔ back <:+ cs := by
  rw [endsWith, startsWith_iff, List.reverse_prefix]

theorem contains_iff {part cs : List Char} : contains part cs = true ↔ part <:+: cs := by
  induction cs with
  | nil => simp [contains]
  | cons c cs ih => rw [contains, Bool.or_eq_true, startsWith_iff, ih, List.infix_cons_iff]

/-! ## Parts on one side -/

section

variable {α : Type} {part front back : List α} {x : α}

/-- A part without an element lies before it or behind it. -/
theorem infix_append_cons (h : part <:+: front ++ x :: back) (hx : x ∉ part) :
    part <:+: front ∨ part <:+: back := by
  rcases List.infix_append_iff.mp h with h | h | ⟨l, l', rfl, hl, hl'⟩
  · exact .inl h
  · rcases List.infix_cons_iff.mp h with h | h
    · cases part with
      | nil => exact .inl List.nil_infix
      | cons y rest =>
        obtain ⟨rfl, _⟩ := List.cons_prefix_cons.mp h
        exact absurd List.mem_cons_self hx
    · exact .inr h
  · cases l' with
    | nil => exact .inl (by simpa using hl.isInfix)
    | cons y rest =>
      obtain ⟨rfl, _⟩ := List.cons_prefix_cons.mp hl'
      exact absurd (List.mem_append_right l List.mem_cons_self) hx

/-- A part does not begin where its first element is not. -/
theorem infix_of_infix_append (h : x :: part <:+: front ++ back) (hx : x ∉ front) :
    x :: part <:+: back := by
  induction front with
  | nil => exact h
  | cons y front ih =>
    rcases List.infix_cons_iff.mp h with h | h
    · obtain ⟨rfl, _⟩ := List.cons_prefix_cons.mp h
      exact absurd List.mem_cons_self hx
    · exact ih h fun hm => hx (List.mem_cons_of_mem y hm)

end

end TemplateBench.Text
