import TemplateBench.Proofs.Text.Lines

/-!
Texts of one line, and texts that are written line by line.

* `OneLine`: a text without a line feed. What is put together from such texts is such a text.
* `HasLines`: cut at its line feeds, a text is these lines, and nothing comes after the last one;
  then these are its `endedLines`.
* `HasLines.append`, `HasLines.join`: texts that are written one after the other have the lines of
  the one before those of the other.
* `getElem?_blocks`: among lines that come in blocks of one length, a line is found by its block
  and by its place in the block.
-/
namespace TemplateBench.Text

/-! ## One line -/

/-- A text without a line feed. -/
def OneLine (s : String) : Prop := '\n' ∉ s.toList

instance (s : String) : Decidable (OneLine s) := inferInstanceAs (Decidable (¬ _))

@[simp]
theorem oneLine_append {s t : String} : OneLine (s ++ t) ↔ OneLine s ∧ OneLine t := by
  simp [OneLine]

@[simp]
theorem oneLine_ofList {cs : List Char} : OneLine (String.ofList cs) ↔ '\n' ∉ cs := by
  simp [OneLine]

theorem oneLine_intercalate {sep : String} (hsep : OneLine sep) {items : List String}
    (h : ∀ s ∈ items, OneLine s) : OneLine (String.intercalate sep items) := by
  intro hmem
  rw [String.toList_intercalate, ← join_eq] at hmem
  rcases mem_join hmem with hm | ⟨piece, hpiece, hm⟩
  · exact hsep hm
  · obtain ⟨s, hs, rfl⟩ := List.mem_map.mp hpiece
    exact h s hs hm

theorem oneLine_toString (n : Nat) : OneLine (toString n) := by
  intro hm
  rw [Nat.toString_eq_repr, Nat.toList_repr] at hm
  have hdigit := Nat.isDigit_of_mem_toDigits (by decide) (by decide) hm
  cases hdigit

/-! ## Lines -/

/-- The lines of a text that end in a line feed. -/
def endedLines (text : String) : List String :=
  (splitOn '\n' text.toList).dropLast.map String.ofList

/-- Cut at its line feeds, the text is these lines and the empty end after the last line feed. -/
def HasLines (text : String) (ls : List String) : Prop :=
  splitOn '\n' text.toList = ls.map String.toList ++ [[]]

instance (text : String) (ls : List String) : Decidable (HasLines text ls) :=
  inferInstanceAs (Decidable (_ = _))

theorem splitOn_unlines_append {ls : List (List Char)} (h : ∀ l ∈ ls, '\n' ∉ l)
    (cs : List Char) : splitOn '\n' (unlines ls ++ cs) = ls ++ splitOn '\n' cs := by
  induction ls with
  | nil => rfl
  | cons l ls ih =>
    have hcons : unlines (l :: ls) ++ cs = l ++ '\n' :: (unlines ls ++ cs) := by
      simp [unlines]
    rw [hcons, splitOn_append, splitOn_of_not_mem (h l (by simp)),
      ih fun l' hm => h l' (by simp [hm])]
    rfl

theorem join_append_nil (ls : List (List Char)) : join ['\n'] (ls ++ [[]]) = unlines ls := by
  induction ls with
  | nil => rfl
  | cons l ls ih =>
    rw [List.cons_append, join_cons _ _ (by simp), ih]
    simp [unlines]

theorem hasLines_iff {text : String} {ls : List String} :
    HasLines text ls ↔ text.toList = unlines (ls.map String.toList) ∧ ∀ l ∈ ls, OneLine l := by
  constructor
  · intro h
    refine ⟨?_, fun l hl => ?_⟩
    · rw [← join_append_nil, ← h, join_splitOn]
    · exact not_mem_of_mem_splitOn (h ▸ List.mem_append_left _ (List.mem_map_of_mem hl))
  · rintro ⟨htext, hls⟩
    have hcut := @splitOn_unlines_append (ls.map String.toList) (by simpa [OneLine] using hls) []
    rw [List.append_nil, ← htext] at hcut
    exact hcut

namespace HasLines

theorem endedLines_eq {text : String} {ls : List String} (h : HasLines text ls) :
    endedLines text = ls := by
  rw [endedLines, h, List.dropLast_concat, List.map_map]
  simp [Function.comp_def]

theorem line {s : String} (h : OneLine s) : HasLines (s ++ "\n") [s] :=
  hasLines_iff.mpr ⟨by simp [unlines], by simpa using h⟩

theorem append {s t : String} {ls ms : List String} (hs : HasLines s ls) (ht : HasLines t ms) :
    HasLines (s ++ t) (ls ++ ms) := by
  obtain ⟨hs, hls⟩ := hasLines_iff.mp hs
  obtain ⟨ht, hms⟩ := hasLines_iff.mp ht
  refine hasLines_iff.mpr ⟨?_, fun l hl => ?_⟩
  · rw [String.toList_append, hs, ht, List.map_append, unlines_append]
  · exact (List.mem_append.mp hl).elim (hls l) (hms l)

/-- Texts written one after the other. -/
theorem join {α : Type} {text : α → String} {ls : α → List String} {xs : List α}
    (h : ∀ x ∈ xs, HasLines (text x) (ls x)) :
    HasLines (String.join (xs.map text)) (xs.flatMap ls) := by
  induction xs with
  | nil => exact hasLines_iff.mpr ⟨rfl, nofun⟩
  | cons x xs ih =>
    have hx := (h x (by simp)).append (ih fun y hy => h y (by simp [hy]))
    simpa [String.join_cons] using hx

end HasLines

/-! ## Blocks of lines -/

section
variable {α β : Type} {f : α → List β} {n : Nat} {xs : List α}

theorem length_blocks (hf : ∀ x ∈ xs, (f x).length = n) :
    (xs.flatMap f).length = xs.length * n := by
  rw [List.length_flatMap, List.map_congr_left hf, List.map_const', List.sum_replicate_nat]

/-- In blocks of one length, a place is found by its block and the place in the block. -/
theorem getElem?_blocks (hf : ∀ x ∈ xs, (f x).length = n) (k : Nat) {j : Nat} (hj : j < n) :
    (xs.flatMap f)[k * n + j]? = xs[k]?.bind fun x => (f x)[j]? := by
  induction xs generalizing k with
  | nil => simp
  | cons x xs ih =>
    have hx := hf x (by simp)
    cases k with
    | zero => simp [List.getElem?_append_left (hx ▸ hj)]
    | succ k =>
      have hplace : (k + 1) * n + j - (f x).length = k * n + j := by
        rw [hx, Nat.add_mul, Nat.one_mul]
        omega
      rw [List.flatMap_cons, List.getElem?_append_right (by rw [hx, Nat.add_mul]; omega), hplace,
        ih (fun y hy => hf y (by simp [hy]))]
      rfl

end

end TemplateBench.Text
