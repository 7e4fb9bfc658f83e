import TemplateBench.Ttp.Line

/-!
The words of a line, between runs of spaces and tabs.

* `SpacedWords`: a text made of given words, with any such runs around them.
* `words_eq_iff`: splitting a text gives the words that it is made of.
-/
namespace TemplateBench.Ttp

/-- The pieces of a text between spaces and tabs, of which runs leave no piece. -/
def words (cs : List Char) : List (List Char) :=
  (cs.splitOnP isTabOrSpace).filter (!·.isEmpty)

/-- Spaces and tabs, or nothing. -/
def IsPadding (cs : List Char) : Prop := ∀ c ∈ cs, isTabOrSpace c = true

def IsWord (cs : List Char) : Prop := cs ≠ [] ∧ ∀ c ∈ cs, isTabOrSpace c = false

/-- A text that starts with a space or a tab, if it starts at all. -/
def StartsBlank (cs : List Char) : Prop := ∀ c ∈ cs.head?, isTabOrSpace c = true

/-- The words of a text in order, apart from each other. -/
inductive SpacedWords : List (List Char) → List Char → Prop
  | nil {gap : List Char} : IsPadding gap → SpacedWords [] gap
  | cons {gap word rest : List Char} {ws : List (List Char)} : IsPadding gap → IsWord word →
      StartsBlank rest → SpacedWords ws rest → SpacedWords (word :: ws) (gap ++ (word ++ rest))

instance (cs : List Char) : Decidable (IsPadding cs) :=
  List.decidableBAll (fun c => isTabOrSpace c = true) cs

instance (cs : List Char) : Decidable (IsWord cs) :=
  @instDecidableAnd _ _ inferInstance (List.decidableBAll (fun c => isTabOrSpace c = false) cs)

/-! ## Gaps and words -/

theorem IsPadding.startsBlank {gap : List Char} (h : IsPadding gap) : StartsBlank gap :=
  fun c hc => h c (List.mem_of_mem_head? hc)

theorem IsPadding.append_startsBlank {gap rest : List Char} (h : IsPadding gap) (hne : gap ≠ []) :
    StartsBlank (gap ++ rest) := by
  obtain ⟨c, gap, rfl⟩ := List.exists_cons_of_ne_nil hne
  intro d hd
  obtain rfl : c = d := by simpa using hd
  exact h c (by simp)

/-- No word starts with a space or a tab. -/
theorem IsWord.gap_ne_nil {word gap rest : List Char} (h : IsWord word)
    (hblank : StartsBlank (gap ++ (word ++ rest))) : gap ≠ [] := by
  rintro rfl
  obtain ⟨c, word, rfl⟩ := List.exists_cons_of_ne_nil h.1
  have hc := hblank c (by simp)
  rw [h.2 c (by simp)] at hc
  cases hc

/-! ## Splitting -/

theorem words_gap_append {gap : List Char} (h : IsPadding gap) (rest : List Char) :
    words (gap ++ rest) = words rest := by
  induction gap with
  | nil => rfl
  | cons c gap ih =>
    obtain ⟨hc, hgap⟩ := List.forall_mem_cons.mp h
    rw [← ih hgap, words, List.cons_append, List.splitOnP_cons_eq_if_modifyHead, if_pos hc]
    rfl

theorem words_word_append {word rest : List Char} (h : IsWord word) (hrest : StartsBlank rest) :
    words (word ++ rest) = word :: words rest := by
  have hkeep : ∀ pieces, (word :: pieces).filter (!·.isEmpty) = word :: pieces.filter (!·.isEmpty) :=
    fun pieces => List.filter_cons_of_pos (by simpa using h.1)
  cases rest with
  | nil =>
    rw [words, List.append_nil, List.splitOnP_eq_singleton h.2, hkeep]
    rfl
  | cons c rest =>
    have hc : isTabOrSpace c = true := hrest c rfl
    rw [words, List.splitOnP_append_cons_of_forall_mem h.2 c hc, hkeep,
      words, List.splitOnP_cons_eq_if_modifyHead, if_pos hc]
    rfl

theorem SpacedWords.words_eq {ws : List (List Char)} {cs : List Char} (h : SpacedWords ws cs) :
    words cs = ws := by
  induction h with
  | @nil gap hgap =>
    rw [← List.append_nil gap, words_gap_append hgap]
    rfl
  | cons hgap hword hrest _ ih => rw [words_gap_append hgap, words_word_append hword hrest, ih]

theorem SpacedWords.cons_blank {ws : List (List Char)} {cs : List Char} (h : SpacedWords ws cs)
    {c : Char} (hc : isTabOrSpace c = true) : SpacedWords ws (c :: cs) := by
  cases h with
  | nil hgap => exact .nil (List.forall_mem_cons.mpr ⟨hc, hgap⟩)
  | cons hgap hword hrest h =>
    rw [← List.cons_append]
    exact .cons (List.forall_mem_cons.mpr ⟨hc, hgap⟩) hword hrest h

/-- Every text is made of words: a character joins the word behind it or starts a new one. -/
theorem exists_spaced (cs : List Char) : ∃ ws, SpacedWords ws cs := by
  induction cs with
  | nil => exact ⟨[], .nil (by simp [IsPadding])⟩
  | cons c cs ih =>
    obtain ⟨ws, h⟩ := ih
    cases hc : isTabOrSpace c with
    | true => exact ⟨ws, h.cons_blank hc⟩
    | false =>
      have hone : IsWord [c] := ⟨by simp, by simpa using hc⟩
      have hnone : IsPadding [] := by simp [IsPadding]
      by_cases hblank : StartsBlank cs
      · exact ⟨_, .cons hnone hone hblank h⟩
      · cases h with
        | nil hgap => exact absurd hgap.startsBlank hblank
        | @cons gap word rest ws hgap hword hrest h =>
          obtain rfl : gap = [] := Classical.byContradiction fun hne =>
            hblank (hgap.append_startsBlank hne)
          have hlonger : IsWord (c :: word) := ⟨by simp, List.forall_mem_cons.mpr ⟨hc, hword.2⟩⟩
          exact ⟨_, .cons hnone hlonger hrest h⟩

/-- **Words.** Splitting a text at runs of spaces and tabs gives the words that it is made of. -/
theorem words_eq_iff {ws : List (List Char)} {cs : List Char} :
    words cs = ws ↔ SpacedWords ws cs := by
  constructor
  · rintro rfl
    obtain ⟨ws, h⟩ := exists_spaced cs
    rwa [h.words_eq]
  · exact SpacedWords.words_eq

end TemplateBench.Ttp
