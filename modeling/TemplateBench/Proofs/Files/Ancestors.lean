import Mathlib.Data.List.DropRight
import TemplateBench.Proofs.Files.Places

/-!
The paths above an absolute path.

* `steps_ofSteps`: a path that is put together from steps has these steps.
* `ancestors_of_append`: what comes after one of the paths above a path are the paths above that
  one.
* `isAbsolute_of_mem_ancestors`: they are all absolute.
-/
namespace TemplateBench.Path
open Text

variable {p b : Path} {inward : List (List Char)} {below more : List Path}

/-! ## Absolute paths -/

theorem isAbsolute_iff : p.isAbsolute = true ↔ ∃ rest, p.text.toList = '/' :: rest := by
  unfold isAbsolute
  cases p.text.toList with
  | nil => simp
  | cons c rest => simp

theorem text_ne_empty (h : p.isAbsolute = true) : p.text ≠ "" := by
  intro he
  obtain ⟨rest, hrest⟩ := isAbsolute_iff.mp h
  rw [he] at hrest
  cases hrest

theorem isAbsolute_ofSteps (inward : List (List Char)) :
    (ofSteps ['/'] inward).isAbsolute = true := by
  simp [isAbsolute, ofSteps]

theorem isAbsolute_join {base : Path} (h : base.isAbsolute = true) (p : Path) :
    (base.join p).isAbsolute = true := by
  by_cases hp : p.isAbsolute = true
  · rwa [join_of_isAbsolute hp]
  · obtain ⟨rest, hrest⟩ := isAbsolute_iff.mp h
    rw [isAbsolute_iff, toList_join base (by simpa using hp), hrest]
    exact ⟨_, rfl⟩

theorem isAbsolute_anchor {base : Path} (h : base.isAbsolute = true) (p : Path) :
    (base.anchor p).isAbsolute = true := by
  unfold anchor
  split
  · assumption
  · exact isAbsolute_join h p

theorem anchor_of_isAbsolute (h : p.isAbsolute = true) (base : Path) : base.anchor p = p := if_pos h

/-! ## Steps -/

theorem steps_of_cons {rest : List Char} (h : p.text.toList = '/' :: rest) :
    p.steps = ⟨['/'], (splitOn '/' rest).reverse.dropWhile isIdle⟩ := by
  unfold steps
  rw [h]
  rfl

/-- The steps of an absolute path have no slashes. -/
theorem steps_of_isAbsolute (h : p.isAbsolute = true) :
    ∃ inward, p.steps = ⟨['/'], inward⟩ ∧ ∀ step ∈ inward, '/' ∉ step := by
  obtain ⟨rest, hrest⟩ := isAbsolute_iff.mp h
  refine ⟨_, steps_of_cons hrest, fun step hm => ?_⟩
  have hstep := (List.dropWhile_sublist _).subset hm
  exact not_mem_of_mem_splitOn (List.mem_reverse.mp hstep)

theorem steps_ofSteps (h : ∀ step ∈ inward, '/' ∉ step) :
    (ofSteps ['/'] inward).steps = ⟨['/'], inward.dropWhile isIdle⟩ := by
  have htext : (ofSteps ['/'] inward).text.toList =
      '/' :: Text.join ['/'] (inward.dropWhile isIdle).reverse := by
    simp [ofSteps]
  rw [steps_of_cons htext]
  by_cases hnil : inward.dropWhile isIdle = []
  · rw [hnil]
    rfl
  · have hslash : ∀ step ∈ (inward.dropWhile isIdle).reverse, '/' ∉ step := fun step hm =>
      h step ((List.dropWhile_sublist _).subset (List.mem_reverse.mp hm))
    have hne : (inward.dropWhile isIdle).reverse ≠ [] := by simpa using hnil
    rw [splitOn_join hne hslash, List.reverse_reverse, List.dropWhile_idempotent]

/-! ## Ancestors -/

theorem above_of_idle {step : List Char} (h : isIdle step = true) (start : List Char)
    (outer : List (List Char)) : above start (step :: outer) = above start outer := by
  rw [above, if_pos h]

theorem above_of_busy {step : List Char} (h : isIdle step = false) (start : List Char)
    (outer : List (List Char)) :
    above start (step :: outer) = ofSteps start outer :: above start outer := by
  rw [above, if_neg (by simp [h])]

/-- Steps that lead nowhere add nothing. -/
theorem above_dropWhile (start : List Char) (inward : List (List Char)) :
    above start (inward.dropWhile isIdle) = above start inward := by
  induction inward with
  | nil => rfl
  | cons step outer ih =>
    by_cases hi : isIdle step = true
    · rw [List.dropWhile_cons_of_pos hi, ih, above_of_idle hi]
    · rw [List.dropWhile_cons_of_neg hi]

theorem ancestors_ofSteps (h : ∀ step ∈ inward, '/' ∉ step) :
    (ofSteps ['/'] inward).ancestors = ofSteps ['/'] inward :: above ['/'] inward := by
  rw [ancestors, steps_ofSteps h, above_dropWhile]

theorem above_eq_append (h : ∀ step ∈ inward, '/' ∉ step)
    (habove : above ['/'] inward = below ++ b :: more) : b.ancestors = b :: more := by
  induction inward generalizing below with
  | nil => simp [above] at habove
  | cons step outer ih =>
    obtain ⟨-, houter⟩ := List.forall_mem_cons.mp h
    by_cases hi : isIdle step = true
    · rw [above_of_idle hi] at habove
      exact ih houter habove
    · rw [above_of_busy (by simpa using hi)] at habove
      cases below with
      | nil =>
        obtain ⟨rfl, rfl⟩ := List.cons.inj habove
        exact ancestors_ofSteps houter
      | cons first below => exact ih houter (List.cons.inj habove).2

/-- What comes after one of the paths above a path are the paths above that one. -/
theorem ancestors_of_append (hp : p.isAbsolute = true) (h : p.ancestors = below ++ b :: more) :
    b.ancestors = b :: more := by
  obtain ⟨inward, hsteps, hslash⟩ := steps_of_isAbsolute hp
  rw [ancestors, hsteps] at h
  cases below with
  | nil =>
    obtain ⟨rfl, rfl⟩ := List.cons.inj h
    rw [ancestors, hsteps]
  | cons first below => exact above_eq_append hslash (List.cons.inj h).2

theorem isAbsolute_of_mem_above (hb : b ∈ above ['/'] inward) : b.isAbsolute = true := by
  induction inward with
  | nil => simp [above] at hb
  | cons step outer ih =>
    by_cases hi : isIdle step = true
    · rw [above_of_idle hi] at hb
      exact ih hb
    · rw [above_of_busy (by simpa using hi)] at hb
      rcases List.mem_cons.mp hb with rfl | hb
      · exact isAbsolute_ofSteps outer
      · exact ih hb

theorem isAbsolute_of_mem_ancestors (hp : p.isAbsolute = true) (hb : b ∈ p.ancestors) :
    b.isAbsolute = true := by
  obtain ⟨inward, hsteps, -⟩ := steps_of_isAbsolute hp
  rw [ancestors, hsteps] at hb
  rcases List.mem_cons.mp hb with rfl | hb
  · exact hp
  · exact isAbsolute_of_mem_above hb

end TemplateBench.Path
