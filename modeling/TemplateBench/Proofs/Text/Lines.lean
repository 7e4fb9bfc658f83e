import TemplateBench.Text.Lines

/-!
Texts written line by line.

* `unlines` ends each line by a line feed.
* `lines_unlines`: cutting such a text gives its lines back, but for carriage returns at their ends.
* `lines_unlines_append`: what is written before a text is cut into lines of its own.
* `lines_append_newline`: a last line feed ends the last line, or adds an empty one.
* `not_mem_of_mem_lines`: no line has a line feed.
* `splitOn_eq`, `join_eq`: cutting and joining are those of lists.
* `splitOn_append`: a text is cut at a character as the parts before and after it are.
* `join_splitOn`, `splitOn_join`: a text cut at a character is its pieces joined by it, and pieces
  without it come back.
-/
namespace TemplateBench.Text

/-- Lines, each ended by a line feed. -/
def unlines (ls : List (List Char)) : List Char := ls.flatMap (· ++ ['\n'])

theorem unlines_append (ls more : List (List Char)) :
    unlines (ls ++ more) = unlines ls ++ unlines more :=
  List.flatMap_append

/-! ## Cutting at line feeds -/

theorem rawLines_go_append (cs rest : List Char) :
    ∀ line, rawLines.go line (cs ++ '\n' :: rest) =
      rawLines.go line (cs ++ ['\n']) ++ rawLines.go [] rest := by
  induction cs with
  | nil =>
    intro line
    simp [rawLines.go]
  | cons c cs ih =>
    intro line
    by_cases hc : c = '\n'
    · subst hc
      simp [rawLines.go, ih]
    · simp [rawLines.go, ih]

theorem lines_append_newline_append (cs rest : List Char) :
    lines (cs ++ '\n' :: rest) = lines (cs ++ ['\n']) ++ lines rest := by
  simp only [lines, rawLines, rawLines_go_append cs rest, List.map_append]

theorem lines_unlines_append (ls : List (List Char)) (cs : List Char) :
    lines (unlines ls ++ cs) = lines (unlines ls) ++ lines cs := by
  induction ls with
  | nil => rfl
  | cons l ls ih =>
    have hcons : unlines (l :: ls) = l ++ '\n' :: unlines ls := by
      simp [unlines]
    rw [hcons, List.append_assoc, List.cons_append, lines_append_newline_append,
      lines_append_newline_append l (unlines ls), ih, List.append_assoc]

theorem rawLines_go_line {l : List Char} (h : '\n' ∉ l) :
    ∀ line, rawLines.go line (l ++ ['\n']) = [(line.reverse ++ l, true)] := by
  induction l with
  | nil =>
    intro line
    simp [rawLines.go]
  | cons c l ih =>
    intro line
    have hc : c ≠ '\n' := fun e => h (by simp [e])
    have hl : '\n' ∉ l := fun hm => h (by simp [hm])
    rw [List.cons_append, rawLines.go, ih hl]
    · simp
    · exact hc

theorem lines_unlines {ls : List (List Char)} (h : ∀ l ∈ ls, '\n' ∉ l) :
    lines (unlines ls) = ls.map dropReturn := by
  induction ls with
  | nil => rfl
  | cons l ls ih =>
    have hcons : unlines (l :: ls) = l ++ '\n' :: unlines ls := by
      simp [unlines]
    rw [hcons, lines_append_newline_append, ih fun l' hm => h l' (by simp [hm])]
    simp [lines, rawLines, rawLines_go_line (h l (by simp))]

theorem rawLines_go_append_newline (cs : List Char) :
    ∀ line, rawLines.go line (cs ++ ['\n']) = rawLines.go line cs ++ [([], true)] ∨
      ∃ init l, rawLines.go line cs = init ++ [(l, false)] ∧
        rawLines.go line (cs ++ ['\n']) = init ++ [(l, true)] := by
  induction cs with
  | nil =>
    intro line
    cases line with
    | nil => exact Or.inl rfl
    | cons c line => exact Or.inr ⟨[], (c :: line).reverse, rfl, rfl⟩
  | cons c cs ih =>
    intro line
    by_cases hc : c = '\n'
    · subst hc
      rcases ih [] with h | ⟨init, l, h, h'⟩
      · exact Or.inl (by simp [rawLines.go, h])
      · exact Or.inr ⟨(line.reverse, true) :: init, l, by simp [rawLines.go, h],
          by simp [rawLines.go, h']⟩
    · simpa [rawLines.go, hc] using ih (c :: line)

/-- A line feed at the end of a text ends its last line, or adds an empty one. -/
theorem lines_append_newline (cs : List Char) :
    lines (cs ++ ['\n']) = lines cs ++ [[]] ∨
      ∃ init l, lines cs = init ++ [l] ∧ lines (cs ++ ['\n']) = init ++ [dropReturn l] := by
  have hlines : ∀ text, lines text =
      (rawLines.go [] text).map fun piece => if piece.2 then dropReturn piece.1 else piece.1 :=
    fun _ => rfl
  rw [hlines, hlines]
  rcases rawLines_go_append_newline cs [] with h | ⟨init, l, h, h'⟩
  · exact Or.inl (by simp [h, dropReturn])
  · exact Or.inr ⟨_, l, by rw [h, List.map_append]; rfl, by rw [h', List.map_append]; rfl⟩

theorem dropReturn_isPrefix (cs : List Char) : dropReturn cs <+: cs := by
  induction cs with
  | nil => exact List.prefix_refl _
  | cons c rest ih =>
    by_cases hlast : c = '\r' ∧ rest = []
    · obtain ⟨rfl, rfl⟩ := hlast
      exact List.nil_prefix
    · rw [dropReturn.eq_3 c rest fun hc hrest => hlast ⟨hc, hrest⟩]
      exact (List.prefix_cons_inj c).mpr ih

theorem not_mem_of_mem_rawLines_go (cs : List Char) :
    ∀ {line : List Char}, '\n' ∉ line → ∀ piece ∈ rawLines.go line cs, '\n' ∉ piece.1 := by
  induction cs with
  | nil =>
    intro line h piece hm
    rw [rawLines.go] at hm
    split at hm
    · cases hm
    · rw [List.mem_singleton.mp hm]
      simpa using h
  | cons c cs ih =>
    intro line h piece hm
    by_cases hc : c = '\n'
    · subst hc
      rw [rawLines.go] at hm
      rcases List.mem_cons.mp hm with rfl | hm
      · simpa using h
      · exact ih List.not_mem_nil piece hm
    · rw [rawLines.go.eq_3 _ _ _ hc] at hm
      exact ih (by simp [Ne.symm hc, h]) piece hm

/-- No line has a line feed. -/
theorem not_mem_of_mem_lines {cs line : List Char} (h : line ∈ lines cs) : '\n' ∉ line := by
  obtain ⟨piece, hpiece, rfl⟩ := List.mem_map.mp h
  have hraw := not_mem_of_mem_rawLines_go cs List.not_mem_nil piece hpiece
  dsimp only
  split
  · exact fun hm => hraw ((dropReturn_isPrefix _).subset hm)
  · exact hraw

/-! ## Pieces -/

/-- Texts are cut as lists are. -/
theorem splitOn_eq (sep : Char) (cs : List Char) : splitOn sep cs = cs.splitOn sep := by
  induction cs with
  | nil => rfl
  | cons c rest ih =>
    rw [splitOn, ih, List.splitOn_cons_eq_if_modifyHead]
    by_cases hc : c = sep
    · simp [hc]
    · cases hs : rest.splitOn sep with
      | nil => exact absurd hs (List.splitOn_ne_nil sep rest)
      | cons piece pieces => simp [hc]

theorem join_eq (sep : List Char) (pieces : List (List Char)) :
    join sep pieces = sep.intercalate pieces := by
  induction pieces with
  | nil => rfl
  | cons piece pieces ih =>
    cases pieces with
    | nil => simp [join]
    | cons next rest =>
      rw [List.intercalate_cons_cons, ← ih]
      rfl

theorem splitOn_ne_nil (sep : Char) (cs : List Char) : splitOn sep cs ≠ [] := by
  rw [splitOn_eq]
  exact List.splitOn_ne_nil sep cs

theorem splitOn_of_not_mem {sep : Char} {cs : List Char} (h : sep ∉ cs) :
    splitOn sep cs = [cs] := by
  rw [splitOn_eq, List.splitOn_eq_singleton h]

theorem splitOn_append (sep : Char) (cs more : List Char) :
    splitOn sep (cs ++ sep :: more) = splitOn sep cs ++ splitOn sep more := by
  simp only [splitOn_eq, List.splitOn_append_cons_self]

/-- No piece has the character at which a text is cut. -/
theorem not_mem_of_mem_splitOn {sep : Char} {cs piece : List Char} (h : piece ∈ splitOn sep cs) :
    sep ∉ piece := by
  induction cs generalizing piece with
  | nil =>
    rw [List.mem_singleton.mp h]
    exact List.not_mem_nil
  | cons c rest ih =>
    unfold splitOn at h
    split at h
    · rcases List.mem_cons.mp h with rfl | h
      · exact List.not_mem_nil
      · exact ih h
    · rename_i hc
      cases hs : splitOn sep rest with
      | nil => exact absurd hs (splitOn_ne_nil sep rest)
      | cons first pieces =>
        rw [hs] at h ih
        rcases List.mem_cons.mp h with rfl | h
        · rw [List.mem_cons, not_or]
          exact ⟨fun he => hc he.symm, ih (List.mem_cons_self)⟩
        · exact ih (List.mem_cons_of_mem first h)

theorem join_cons (sep piece : List Char) {pieces : List (List Char)} (h : pieces ≠ []) :
    join sep (piece :: pieces) = piece ++ sep ++ join sep pieces := by
  cases pieces with
  | nil => exact absurd rfl h
  | cons next rest => rfl

theorem join_splitOn (sep : Char) (cs : List Char) : join [sep] (splitOn sep cs) = cs := by
  rw [splitOn_eq, join_eq, List.intercalate_splitOn]

/-- Pieces without the character by which they are joined are what the text is cut into. -/
theorem splitOn_join {sep : Char} {pieces : List (List Char)} (hne : pieces ≠ [])
    (h : ∀ piece ∈ pieces, sep ∉ piece) : splitOn sep (join [sep] pieces) = pieces := by
  rw [splitOn_eq, join_eq, List.splitOn_intercalate sep h hne]

theorem mem_join {sep : List Char} {c : Char} {pieces : List (List Char)}
    (h : c ∈ join sep pieces) : c ∈ sep ∨ ∃ piece ∈ pieces, c ∈ piece := by
  induction pieces with
  | nil => cases h
  | cons piece pieces ih =>
    by_cases hlast : pieces = []
    · rw [hlast] at h
      exact .inr ⟨piece, by simp, h⟩
    · rw [join_cons _ _ hlast, List.mem_append, List.mem_append] at h
      rcases h with (h | h) | h
      · exact .inr ⟨piece, by simp, h⟩
      · exact .inl h
      · rcases ih h with h | ⟨p, hp, hc⟩
        · exact .inl h
        · exact .inr ⟨p, by simp [hp], hc⟩

end TemplateBench.Text
