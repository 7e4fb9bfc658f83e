import TemplateBench.Text.Letters
import TemplateBench.Text.Lines

/-!
White space around a text.

* `trimEnd_append_blanks`, `trimEnd_dropReturn`: what `trimEnd` drops may stand there or not.
* `trim_trimEnd`, `head?_trimStart_trimEnd`, `startsWith_trimEnd`: what it leaves is not looked at.
* `isBlank_of_isWord`: no character of a word is white space.
-/
namespace TemplateBench.Text

/-- White space that may end a line. -/
def Blanks (cs : List Char) : Prop := ∀ c ∈ cs, isBlank c = true ∧ c ≠ '\n'

instance (cs : List Char) : Decidable (Blanks cs) :=
  List.decidableBAll (fun c => isBlank c = true ∧ c ≠ '\n') cs

/-! ## Dropping white space -/

theorem trimEnd_eq_nil {cs : List Char} (h : ∀ c ∈ cs, isBlank c = true) : trimEnd cs = [] := by
  induction cs with
  | nil => rfl
  | cons c rest ih =>
    rw [trimEnd, ih fun d hd => h d (by simp [hd])]
    simp [h c (by simp)]

theorem trimEnd_append_of_trimEnd_eq_nil {blanks : List Char} (h : trimEnd blanks = [])
    (cs : List Char) : trimEnd (cs ++ blanks) = trimEnd cs := by
  induction cs with
  | nil => exact h
  | cons c rest ih => rw [List.cons_append, trimEnd, trimEnd, ih]

theorem Blanks.trimEnd {blanks : List Char} (h : Blanks blanks) : Text.trimEnd blanks = [] :=
  trimEnd_eq_nil fun c hc => (h c hc).1

theorem trimEnd_append_blanks (cs : List Char) {blanks : List Char} (h : Blanks blanks) :
    trimEnd (cs ++ blanks) = trimEnd cs :=
  trimEnd_append_of_trimEnd_eq_nil h.trimEnd cs

theorem trimEnd_dropReturn (cs : List Char) : trimEnd (dropReturn cs) = trimEnd cs := by
  fun_induction dropReturn cs with
  | case1 => rfl
  | case2 => rfl
  | case3 c rest _ ih => rw [trimEnd, trimEnd, ih]

theorem trimEnd_cons_of_not_isBlank {c : Char} (h : isBlank c = false) (rest : List Char) :
    trimEnd (c :: rest) = c :: trimEnd rest := by
  rw [trimEnd]
  split
  · rename_i hr
    simp [h, hr]
  · rfl

theorem trimEnd_cons_of_trimEnd_ne_nil (c : Char) {rest : List Char} (h : trimEnd rest ≠ []) :
    trimEnd (c :: rest) = c :: trimEnd rest := by
  rw [trimEnd]
  split
  · contradiction
  · rfl

/-- Only the end of a text is trimmed if something of it is left. -/
theorem trimEnd_append_of_trimEnd_ne_nil (front : List Char) {cs : List Char}
    (h : trimEnd cs ≠ []) : trimEnd (front ++ cs) = front ++ trimEnd cs := by
  induction front with
  | nil => rfl
  | cons c front ih =>
    rw [List.cons_append, trimEnd_cons_of_trimEnd_ne_nil c (by rw [ih]; simp [h]), ih]
    rfl

theorem trimEnd_append_eq (front : List Char) {cs : List Char} (hne : cs ≠ [])
    (h : trimEnd cs = cs) : trimEnd (front ++ cs) = front ++ cs := by
  rw [trimEnd_append_of_trimEnd_ne_nil front (by rwa [h]), h]

theorem trimEnd_append_of_not_isBlank {c : Char} (h : isBlank c = false) (cs : List Char) :
    trimEnd (cs ++ [c]) = cs ++ [c] :=
  trimEnd_append_eq cs (List.cons_ne_nil c []) (trimEnd_cons_of_not_isBlank h [])

/-- A text without white space is left as it is. -/
theorem trimEnd_eq_self {cs : List Char} (h : ∀ c ∈ cs, isBlank c = false) : trimEnd cs = cs := by
  induction cs with
  | nil => rfl
  | cons c rest ih =>
    rw [trimEnd_cons_of_not_isBlank (h c (by simp)), ih fun d hd => h d (by simp [hd])]

theorem trimEnd_isPrefix (cs : List Char) : trimEnd cs <+: cs := by
  induction cs with
  | nil => exact List.prefix_refl _
  | cons c rest ih =>
    rw [trimEnd]
    split
    · split
      · exact List.nil_prefix
      · exact (List.prefix_cons_inj c).mpr List.nil_prefix
    · exact (List.prefix_cons_inj c).mpr ih

theorem trim_subset (cs : List Char) : trim cs ⊆ cs :=
  fun _ hc => List.dropWhile_subset _ ((trimEnd_isPrefix _).subset hc)

theorem trimEnd_trimEnd (cs : List Char) : trimEnd (trimEnd cs) = trimEnd cs := by
  induction cs with
  | nil => rfl
  | cons c rest ih =>
    by_cases hr : trimEnd rest = []
    · cases hc : isBlank c <;> simp [trimEnd, hr, hc]
    · rw [trimEnd_cons_of_trimEnd_ne_nil c hr, trimEnd_cons_of_trimEnd_ne_nil c (by rwa [ih]), ih]

/-! ## What white space at the end does not change -/

theorem trimStart_cons_of_isBlank {c : Char} (h : isBlank c = true) (rest : List Char) :
    trimStart (c :: rest) = trimStart rest := by
  simp [trimStart, h]

theorem trimStart_cons_of_not_isBlank {c : Char} (h : isBlank c = false) (rest : List Char) :
    trimStart (c :: rest) = c :: rest := by
  simp [trimStart, h]

/-- It does not matter at which end white space is dropped first. -/
theorem trimStart_trimEnd (cs : List Char) : trimStart (trimEnd cs) = trimEnd (trimStart cs) := by
  induction cs with
  | nil => rfl
  | cons c rest ih =>
    cases hc : isBlank c with
    | false =>
      rw [trimEnd_cons_of_not_isBlank hc, trimStart_cons_of_not_isBlank hc,
        trimStart_cons_of_not_isBlank hc, trimEnd_cons_of_not_isBlank hc]
    | true =>
      rw [trimStart_cons_of_isBlank hc, ← ih]
      by_cases hr : trimEnd rest = []
      · simp [trimEnd, hr, hc]
      · rw [trimEnd_cons_of_trimEnd_ne_nil c hr, trimStart_cons_of_isBlank hc]

theorem trim_trimEnd (cs : List Char) : trim (trimEnd cs) = trim cs := by
  rw [trim, trimStart_trimEnd, trimEnd_trimEnd, trim]

theorem head?_trimStart_trimEnd (cs : List Char) :
    (trimStart (trimEnd cs)).head? = (trimStart cs).head? := by
  induction cs with
  | nil => rfl
  | cons c rest ih =>
    cases hc : isBlank c with
    | false =>
      rw [trimEnd_cons_of_not_isBlank hc, trimStart_cons_of_not_isBlank hc,
        trimStart_cons_of_not_isBlank hc]
      rfl
    | true =>
      rw [trimStart_cons_of_isBlank hc, ← ih]
      by_cases hr : trimEnd rest = []
      · simp [trimEnd, hr, hc]
      · rw [trimEnd_cons_of_trimEnd_ne_nil c hr, trimStart_cons_of_isBlank hc]

/-- A beginning that does not end in white space is there as long as it was. -/
theorem startsWith_trimEnd {c : Char} (hc : isBlank c = false) (front : List Char) :
    ∀ cs, startsWith (trimEnd cs) (front ++ [c]) = startsWith cs (front ++ [c]) := by
  induction front with
  | nil =>
    intro cs
    cases cs with
    | nil => rfl
    | cons d rest =>
      by_cases hd : c = d
      · subst hd
        rw [trimEnd_cons_of_not_isBlank hc]
        simp [startsWith, dropFront]
      · by_cases hr : trimEnd rest = []
        · cases hb : isBlank d <;> simp [trimEnd, hr, hb, startsWith, dropFront, hd]
        · simp [trimEnd_cons_of_trimEnd_ne_nil d hr, startsWith, dropFront, hd]
  | cons p front ih =>
    intro cs
    cases cs with
    | nil => rfl
    | cons d rest =>
      have hstep : ∀ tail, startsWith (d :: tail) (p :: front ++ [c]) =
          (decide (p = d) && startsWith tail (front ++ [c])) := by
        intro tail
        by_cases hp : p = d <;> simp [startsWith, dropFront, hp]
      rw [hstep rest, ← ih rest]
      by_cases hr : trimEnd rest = []
      · have hnil : startsWith [] (front ++ [c]) = false := by
          cases front <;> rfl
        rw [hr, hnil, Bool.and_false]
        cases hb : isBlank d
        · rw [trimEnd_cons_of_not_isBlank hb, hr, hstep, hnil, Bool.and_false]
        · simp [trimEnd, hr, hb, startsWith, dropFront]
      · rw [trimEnd_cons_of_trimEnd_ne_nil d hr, hstep]

/-! ## Words -/

/-- The code points of white space. -/
def blankCodes : List Nat :=
  [9, 10, 11, 12, 13, 0x20, 0x85, 0xA0, 0x1680, 0x2000, 0x2001, 0x2002, 0x2003, 0x2004, 0x2005,
    0x2006, 0x2007, 0x2008, 0x2009, 0x200A, 0x2028, 0x2029, 0x202F, 0x205F, 0x3000]

theorem toNat_mem_blankCodes {c : Char} (h : isBlank c = true) : c.toNat ∈ blankCodes := by
  simp only [isBlank, Bool.or_eq_true, Bool.and_eq_true, decide_eq_true_eq, beq_iff_eq] at h
  simp only [blankCodes, List.mem_cons, List.not_mem_nil, or_false]
  omega

theorem isBlank_of_isWord {c : Char} (h : isWord c = true) : isBlank c = false := by
  have hcodes : ∀ n ∈ blankCodes, isWord (Char.ofNat n) = false := by decide +kernel
  rw [Bool.eq_false_iff]
  intro hb
  have hw := hcodes c.toNat (toNat_mem_blankCodes hb)
  rw [Char.ofNat_toNat, h] at hw
  cases hw

end TemplateBench.Text
