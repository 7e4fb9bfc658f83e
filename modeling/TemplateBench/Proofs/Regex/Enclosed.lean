import Mathlib.Data.List.TakeDrop
import Mathlib.Data.List.TakeWhile
import TemplateBench.Regex.Reader

/-!
What the end of the group around an expression changes for the readers of its parts: nothing.

* `Enclosed` relates what is left to read with and without the closing parenthesis and the text
  behind it. A comment may take both.
* `Follows` relates two readers, and `Follows.bind` two sequences of them.
* `readEscape_follows`, `readClass_follows`: escapes and classes are read alike.
-/
namespace TemplateBench.Regex
open Text Decimal

/-! ## What the end of a group changes -/

/-- What follows the end of a group, within one line: a comment that reaches it takes all of it. -/
structure Tail where
  text : List Char := []
  oneLine : '\n' ∉ text := by simp

/-- The parenthesis that ends the group, and what follows it. -/
def Tail.closed (tail : Tail) : List Char := ')' :: tail.text

/-- `rest'` is `rest` with the end of the group behind it, unless a comment has taken that. -/
def Enclosed (tail : Tail) (rest rest' : List Char) : Prop :=
  rest' = rest ++ tail.closed ∨ rest = [] ∧ rest' = []

/-- Where both readers accept, their results correspond. -/
def Follows {α β : Type} (R : α → β → Prop) (x : Reading α) (y : Reading β) : Prop :=
  ∀ a b, x = .ok a → y = .ok b → R a b

/-- Equal results, with an enclosed rest. -/
def Alike (tail : Tail) {α : Type} (a b : α × List Char) : Prop :=
  a.1 = b.1 ∧ Enclosed tail a.2 b.2

variable {tail : Tail}

namespace Enclosed

variable {rest rest' : List Char} {c : Char}

theorem of_cons (h : Enclosed tail (c :: rest) rest') : rest' = c :: (rest ++ tail.closed) := by
  rcases h with rfl | ⟨h, _⟩
  · rfl
  · cases h

theorem append (rest : List Char) : Enclosed tail rest (rest ++ tail.closed) := .inl rfl

theorem cons (h : Enclosed tail (c :: rest) rest') :
    ∃ more, rest' = c :: more ∧ Enclosed tail rest more :=
  ⟨_, h.of_cons, append rest⟩

theorem nil (h : Enclosed tail [] rest') : rest' = tail.closed ∨ rest' = [] := by
  simpa [Enclosed] using h

theorem cons_right {cs : List Char} (hc : c ≠ ')') (h : Enclosed tail cs (c :: rest')) :
    ∃ rest, cs = c :: rest ∧ Enclosed tail rest rest' := by
  cases cs with
  | nil =>
    rcases h.nil with h | h
    · exact absurd (List.cons.inj h).1 hc
    · cases h
  | cons d rest =>
    obtain ⟨more, he, hrest⟩ := h.cons
    cases he
    exact ⟨rest, rfl, hrest⟩

end Enclosed

section Follows

variable {α β γ δ : Type} {R : α → β → Prop} {S : γ → δ → Prop}

theorem Follows.error {e : Malformed} {y : Reading β} : Follows R (.error e) y := nofun

theorem Follows.error_right {x : Reading α} {e : Malformed} : Follows R x (.error e) := nofun

theorem Follows.ok {a : α} {b : β} (h : R a b) : Follows R (.ok a) (.ok b) := by
  intro a' b' ha hb
  cases ha
  cases hb
  exact h

theorem Follows.bind {x : Reading α} {y : Reading β} {f : α → Reading γ} {g : β → Reading δ}
    (h : Follows R x y) (hfg : ∀ a b, R a b → Follows S (f a) (g b)) :
    Follows S (x >>= f) (y >>= g) := by
  intro c d hc hd
  cases x with
  | error e => cases hc
  | ok a =>
    cases y with
    | error e => cases hd
    | ok b => exact hfg a b (h a b rfl rfl) c d hc hd

end Follows

/-! ## Blanks -/

theorem skipComment_of_oneLine {cs : List Char} (h : '\n' ∉ cs) : skipComment cs = [] := by
  induction cs with
  | nil => rfl
  | cons c rest ih =>
    rw [List.mem_cons, not_or] at h
    rw [skipComment]
    · exact ih h.2
    · exact fun he => h.1 he.symm

theorem Tail.closed_oneLine (tail : Tail) : '\n' ∉ tail.closed := by
  simp [closed, tail.oneLine]

theorem skipComment_enclosed (cs : List Char) :
    Enclosed tail (skipComment cs) (skipComment (cs ++ tail.closed)) := by
  fun_induction skipComment cs with
  | case1 => exact .inr ⟨rfl, skipComment_of_oneLine tail.closed_oneLine⟩
  | case2 rest => exact .append rest
  | case3 c rest hc ih =>
    rwa [List.cons_append, skipComment]
    exact hc

theorem skipComment_length (cs : List Char) : (skipComment cs).length ≤ cs.length := by
  fun_induction skipComment cs with
  | case1 => simp
  | case2 rest => simp
  | case3 c rest _ ih => exact Nat.le_succ_of_le ih

theorem skipSpace_length (n : Nat) : ∀ cs : List Char, (skipSpace n cs).length ≤ cs.length := by
  induction n with
  | zero => exact fun cs => by simp [skipSpace]
  | succ n ih =>
    intro cs
    cases cs with
    | nil => simp [skipSpace]
    | cons c rest =>
      rw [skipSpace]
      split
      · exact Nat.le_succ_of_le (ih rest)
      · split
        · exact Nat.le_succ_of_le (Nat.le_trans (ih _) (skipComment_length rest))
        · exact Nat.le_refl _

theorem skipSpace_nil (n : Nat) : skipSpace n [] = [] := by
  cases n <;> rfl

theorem skipSpace_enclosed (n : Nat) :
    ∀ cs m, cs.length ≤ n → cs.length < m →
      Enclosed tail (skipSpace n cs) (skipSpace m (cs ++ tail.closed)) := by
  induction n with
  | zero =>
    intro cs m hn hm
    obtain rfl := List.length_eq_zero_iff.mp (Nat.le_zero.mp hn)
    obtain ⟨m, rfl⟩ := Nat.exists_eq_succ_of_ne_zero (Nat.ne_of_gt hm)
    exact .inl rfl
  | succ n ih =>
    intro cs m hn hm
    obtain ⟨m, rfl⟩ := Nat.exists_eq_succ_of_ne_zero (Nat.ne_of_gt (Nat.zero_lt_of_lt hm))
    cases cs with
    | nil => exact .inl rfl
    | cons c rest =>
      simp only [List.length_cons] at hn hm
      rw [List.cons_append, skipSpace, skipSpace]
      split
      · exact ih rest m (by omega) (by omega)
      · split
        · have hlength := skipComment_length rest
          rcases skipComment_enclosed rest with h | ⟨h, h'⟩
          · rw [h]
            exact ih _ m (by omega) (by omega)
          · rw [h, h', skipSpace_nil, skipSpace_nil]
            exact .inr ⟨rfl, rfl⟩
        · exact .append _

theorem settle_length (flags : Flags) (cs : List Char) : (settle flags cs).length ≤ cs.length := by
  unfold settle
  split
  · exact skipSpace_length _ cs
  · exact Nat.le_refl _

theorem settle_nil (flags : Flags) : settle flags [] = [] := by
  simp [settle, skipSpace]

theorem Enclosed.settle {cs cs' : List Char} (h : Enclosed tail cs cs') (flags : Flags) :
    Enclosed tail (settle flags cs) (settle flags cs') := by
  rcases h with rfl | ⟨rfl, rfl⟩
  · unfold Regex.settle
    split
    · exact skipSpace_enclosed _ cs _ (Nat.le_refl _) (by simp [Tail.closed])
    · exact .append cs
  · rw [settle_nil]
    exact .inr ⟨rfl, rfl⟩

theorem Enclosed.dropWhile {p : Char → Bool} (hp : p ')' = false) {cs cs' : List Char}
    (h : Enclosed tail cs cs') : Enclosed tail (cs.dropWhile p) (cs'.dropWhile p) := by
  rcases h with rfl | ⟨rfl, rfl⟩
  · rw [List.dropWhile_append]
    split
    · rename_i hnil
      rw [List.isEmpty_iff.mp hnil]
      exact .inl (by simp [Tail.closed, hp])
    · exact .append _
  · exact .inr ⟨rfl, rfl⟩

/-! ## Numbers -/

theorem digitsOf_alike (flags : Flags) (n : Nat) :
    ∀ cs cs' m, Enclosed tail cs cs' → cs.length ≤ n → cs'.length ≤ m →
      Alike tail (digitsOf flags n cs) (digitsOf flags m cs') := by
  induction n with
  | zero =>
    intro cs cs' m h hn hm
    obtain rfl := List.length_eq_zero_iff.mp (Nat.le_zero.mp hn)
    rcases h.nil with rfl | rfl <;> cases m <;> exact ⟨rfl, h⟩
  | succ n ih =>
    intro cs cs' m h hn hm
    cases cs with
    | nil => rcases h.nil with rfl | rfl <;> cases m <;> exact ⟨rfl, h⟩
    | cons c rest =>
      obtain ⟨more, rfl, hrest⟩ := h.cons
      cases m with
      | zero => cases hm
      | succ m =>
        simp only [List.length_cons] at hn hm
        have hs := settle_length flags rest
        have hs' := settle_length flags more
        obtain ⟨hds, hafter⟩ := ih _ _ m (hrest.settle flags) (by omega) (by omega)
        rw [digitsOf, digitsOf]
        split
        · exact ⟨congrArg (c :: ·) hds, hafter⟩
        · exact ⟨rfl, h⟩

theorem digitsOf_dropWhile (flags : Flags) {cs cs' : List Char} (h : Enclosed tail cs cs') :
    Alike tail (digitsOf flags cs.length (cs.dropWhile isBlank))
      (digitsOf flags cs'.length (cs'.dropWhile isBlank)) :=
  digitsOf_alike flags _ _ _ _ (h.dropWhile (by decide)) (List.dropWhile_suffix _).length_le
    (List.dropWhile_suffix _).length_le

theorem readCount_follows (flags : Flags) {cs cs' : List Char} (h : Enclosed tail cs cs') :
    Follows (Alike tail) (readCount flags cs) (readCount flags cs') := by
  obtain ⟨hds, hrest⟩ := digitsOf_dropWhile flags h
  have hrest := (hrest.dropWhile (p := isBlank) (by decide)).settle flags
  unfold readCount
  dsimp only
  rw [← hds]
  split
  · exact .ok ⟨rfl, hrest⟩
  · split
    · exact .ok ⟨rfl, hrest⟩
    · exact .error

theorem takeHex_follows (flags : Flags) (n : Nat) :
    ∀ {cs cs' : List Char}, Enclosed tail cs cs' →
      Follows (Alike tail) (takeHex flags n cs) (takeHex flags n cs') := by
  induction n with
  | zero => exact fun h => .ok ⟨rfl, h⟩
  | succ n ih =>
    intro cs cs' h
    cases cs with
    | nil => exact .error
    | cons c rest =>
      obtain ⟨more, rfl, hrest⟩ := h.cons
      exact (ih (hrest.settle flags)).bind fun a b hab => .ok ⟨congrArg (c :: ·) hab.1, hab.2⟩

theorem span_append {p : Char → Bool} {body ds rest : List Char} {c : Char}
    (h : body.span p = (ds, c :: rest)) :
    (body ++ tail.closed).span p = (ds, c :: (rest ++ tail.closed)) := by
  rw [List.span_eq_takeWhile_dropWhile, Prod.mk.injEq] at h
  have hnot : (body.takeWhile p).length ≠ body.length := by
    intro he
    have hlength := congrArg List.length (List.takeWhile_append_dropWhile (p := p) (l := body))
    rw [h.2, List.length_append, he] at hlength
    simp at hlength
  rw [List.span_eq_takeWhile_dropWhile, List.takeWhile_append, List.dropWhile_append, if_neg hnot, h.1,
    h.2]
  simp

theorem readUpTo_follows (p : Char → Bool) (stop : Char) {cs cs' : List Char}
    (h : Enclosed tail cs cs') : Follows (Alike tail) (readUpTo p stop cs) (readUpTo p stop cs') := by
  rcases h with rfl | ⟨rfl, rfl⟩
  · unfold readUpTo
    cases hspan : cs.span p with
    | mk front rest =>
      cases rest with
      | nil => exact .error
      | cons c rest =>
        rw [span_append hspan]
        dsimp only
        split
        · exact .ok ⟨rfl, .append rest⟩
        · exact .error
  · exact .error

theorem readHexDigits_follows (flags : Flags) (width : Nat) {cs cs' : List Char}
    (h : Enclosed tail cs cs') :
    Follows (Alike tail) (readHexDigits flags width cs) (readHexDigits flags width cs') := by
  unfold readHexDigits
  split
  · obtain ⟨more, rfl, hrest⟩ := h.cons
    refine (readUpTo_follows _ _ hrest).bind ?_
    rintro ⟨ds, rest⟩ ⟨_, rest'⟩ ⟨rfl, hrest⟩
    exact .ok ⟨rfl, hrest.settle flags⟩
  · rename_i hbrace
    split
    · obtain ⟨body, rfl, _⟩ := h.cons_right (by decide)
      exact absurd rfl (hbrace body)
    · exact takeHex_follows flags width h

theorem readHex_follows (flags : Flags) (width : Nat) {cs cs' : List Char} (h : Enclosed tail cs cs') :
    Follows (Alike tail) (readHex flags width cs) (readHex flags width cs') := by
  refine (readHexDigits_follows flags width h).bind ?_
  rintro ⟨ds, rest⟩ ⟨_, rest'⟩ ⟨rfl, hrest⟩
  dsimp only
  split
  · exact .error
  · split
    · exact .ok ⟨rfl, hrest⟩
    · exact .error

/-! ## Escapes -/

theorem readPropertyName_follows (flags : Flags) {cs cs' : List Char} (h : Enclosed tail cs cs') :
    Follows (Alike tail) (readPropertyName flags cs) (readPropertyName flags cs') := by
  cases cs with
  | nil => exact .error
  | cons c rest =>
    obtain ⟨more, rfl, hrest⟩ := h.cons
    unfold readPropertyName
    dsimp only
    split
    · exact readUpTo_follows _ _ hrest
    · exact .error
    · exact .ok ⟨rfl, hrest.settle flags⟩

theorem readProperty_follows (flags : Flags) (negated : Bool) {cs cs' : List Char}
    (h : Enclosed tail cs cs') :
    Follows (Alike tail) (readProperty flags negated cs) (readProperty flags negated cs') := by
  refine (readPropertyName_follows flags h).bind ?_
  rintro ⟨name, rest⟩ ⟨_, rest'⟩ ⟨rfl, hrest⟩
  dsimp only
  split
  · exact .error
  · split
    · exact .ok ⟨rfl, hrest⟩
    · exact .error

theorem readBoundaryName_follows (flags : Flags) {cs cs' : List Char} (h : Enclosed tail cs cs') :
    Follows (Alike tail) (readBoundaryName flags cs) (readBoundaryName flags cs') := by
  refine (readUpTo_follows _ _ h).bind ?_
  rintro ⟨name, rest⟩ ⟨_, rest'⟩ ⟨rfl, hrest⟩
  dsimp only
  split
  · exact .ok ⟨rfl, hrest⟩
  · exact .error

theorem readBoundary_follows (flags : Flags) {cs cs' : List Char} (h : Enclosed tail cs cs') :
    Follows (Alike tail) (readBoundary flags cs) (readBoundary flags cs') := by
  unfold readBoundary
  split
  · rename_i body
    obtain ⟨more, rfl, hrest⟩ := h.cons
    have hsettled := hrest.settle flags
    split
    · exact .error
    · rename_i c body' hbody
      rw [hbody] at hsettled
      obtain ⟨more', hmore, hrest'⟩ := hsettled.cons
      simp only [hmore]
      split
      · refine (readBoundaryName_follows flags ?_).bind fun a b hab =>
          .ok ⟨congrArg Escape.look hab.1, hab.2⟩
        exact hmore ▸ hsettled
      · exact .ok ⟨rfl, h⟩
  · rename_i hbrace
    split
    · obtain ⟨body, rfl, _⟩ := h.cons_right (by decide)
      exact absurd rfl (hbrace body)
    · exact .ok ⟨rfl, h⟩

theorem readEscape_follows (flags : Flags) {cs cs' : List Char} (h : Enclosed tail cs cs') :
    Follows (Alike tail) (readEscape flags cs) (readEscape flags cs') := by
  cases cs with
  | nil => exact .error
  | cons c rest =>
    obtain ⟨more, rfl, hrest⟩ := h.cons
    have hhex : ∀ width, Follows (Alike tail)
        (do let x ← readHex flags width (settle flags rest); pure (Escape.char x.1 true, x.2))
        (do let x ← readHex flags width (settle flags more); pure (Escape.char x.1 true, x.2)) :=
      fun width => (readHex_follows flags width (hrest.settle flags)).bind fun a b hab =>
        .ok ⟨congrArg (Escape.char · true) hab.1, hab.2⟩
    have hok : ∀ e : Escape, Follows (Alike tail) (.ok (e, rest)) (.ok (e, more)) :=
      fun e => .ok ⟨rfl, hrest⟩
    unfold readEscape
    dsimp only
    cases classLetter flags c with
    | some letter =>
      obtain ⟨s, negated⟩ := letter
      dsimp only
      cases complement flags negated s with
      | error e => exact .error
      | ok set => exact hok _
    | none =>
      dsimp only
      split
      case h_4 | h_5 => exact readProperty_follows flags _ (hrest.settle flags)
      case h_14 => exact readBoundary_follows flags hrest
      case h_18 =>
        split
        · exact hok _
        · exact .error
      all_goals first | exact hhex _ | exact hok _

/-! ## Classes -/

theorem mem_span_append {p : Char → Bool} (hp : p ')' = true) {cs front : List Char}
    (h : cs.span p = (front, [])) : ')' ∈ ((cs ++ tail.closed).span p).1 := by
  rw [List.span_eq_takeWhile_dropWhile, Prod.mk.injEq, List.dropWhile_eq_nil_iff] at h
  rw [List.span_eq_takeWhile_dropWhile, List.takeWhile_append_of_pos h.2, Tail.closed,
    List.takeWhile_cons_of_pos hp]
  simp

/-- A name with a parenthesis in it is the name of no class. -/
theorem ascii?_of_mem {name : List Char} (h : ')' ∈ name) :
    CharSet.ascii? (String.ofList name) = none := by
  have hne : ∀ known : String, ')' ∉ known.toList → String.ofList name ≠ known := by
    rintro known hknown rfl
    exact hknown (by simpa using h)
  unfold CharSet.ascii?
  split
  case h_15 => rfl
  all_goals exact absurd ‹_› (hne _ (by decide))

theorem namedClass?_of_mem (flags : Flags) (negated : Bool) {cs : List Char}
    (h : ')' ∈ (cs.span (· ≠ ':')).1) : namedClass? flags negated cs = none := by
  unfold namedClass? asciiName?
  split
  · rename_i name rest hspan
    rw [hspan] at h
    simp [ascii?_of_mem h]
  · rfl

theorem namedClass?_append (flags : Flags) (negated : Bool) (cs : List Char) :
    namedClass? flags negated (cs ++ tail.closed) =
      (namedClass? flags negated cs).map fun (s, rest) => (s, rest ++ tail.closed) := by
  cases hspan : cs.span (· ≠ ':') with
  | mk name rest =>
    cases rest with
    | nil =>
      rw [namedClass?_of_mem flags negated (mem_span_append (by decide) hspan)]
      unfold namedClass? asciiName?
      rw [hspan]
      rfl
    | cons c rest =>
      unfold namedClass? asciiName?
      rw [span_append hspan, hspan]
      rcases rest with _ | ⟨d, rest⟩
      · simp [Tail.closed]
      · by_cases he : c = ':' ∧ d = ']'
        · obtain ⟨rfl, rfl⟩ := he
          simp [Function.comp_def]
        · simp_all

theorem asciiClass?_append (flags : Flags) (cs : List Char) :
    asciiClass? flags (cs ++ tail.closed) =
      (asciiClass? flags cs).map fun (s, rest) => (s, rest ++ tail.closed) := by
  have hnamed : ∀ negated body, namedClass? flags negated (body ++ tail.closed) =
      (namedClass? flags negated body).map fun (s, rest) => (s, rest ++ tail.closed) :=
    namedClass?_append flags
  rcases cs with _ | ⟨c, cs⟩
  · rfl
  · by_cases hc : c = ':'
    · subst hc
      rcases cs with _ | ⟨d, cs⟩
      · exact hnamed false []
      · by_cases hd : d = '^'
        · subst hd
          exact hnamed true cs
        · have hcaret : ∀ rest, asciiClass? flags (':' :: d :: rest) =
              namedClass? flags false (d :: rest) := by
            intro rest
            rw [asciiClass?]
            simp [hd]
          rw [List.cons_append, List.cons_append, hcaret, hcaret, ← List.cons_append, hnamed]
    · have hnone : ∀ rest, asciiClass? flags (c :: rest) = none := by
        intro rest
        rw [asciiClass?]
        · simp [hc]
        · simp [hc]
      rw [List.cons_append, hnone, hnone]
      rfl

theorem readItem_follows (flags : Flags) {cs cs' : List Char} (h : Enclosed tail cs cs') :
    Follows (Alike tail) (readItem flags cs) (readItem flags cs') := by
  cases cs with
  | nil => exact .error
  | cons c rest =>
    obtain ⟨more, rfl, hrest⟩ := h.cons
    unfold readItem
    dsimp only
    split
    · refine (readEscape_follows flags hrest).bind ?_
      rintro ⟨e, rest⟩ ⟨_, rest'⟩ ⟨rfl, hrest⟩
      cases e with
      | char c numbered =>
        dsimp only
        split
        · exact .error
        · exact .ok ⟨rfl, hrest⟩
      | set s => exact .ok ⟨rfl, hrest⟩
      | look l => exact .error
    · split
      · exact .error
      · exact .ok ⟨rfl, hrest⟩

theorem readRangeEnd_follows (flags : Flags) (first : SetItem) {cs cs' : List Char}
    (h : Enclosed tail cs cs') :
    Follows (Alike tail) (readRangeEnd flags first cs) (readRangeEnd flags first cs') := by
  unfold readRangeEnd
  split
  · rename_i more
    obtain ⟨more', rfl, hmore⟩ := h.cons
    have hsettled := hmore.settle flags
    split
    · exact .error
    · rename_i c tail htail
      rw [htail] at hsettled
      obtain ⟨tail', htail', _⟩ := hsettled.cons
      simp only [htail']
      split
      · exact .ok ⟨rfl, h⟩
      · refine (readItem_follows flags (htail' ▸ hsettled)).bind ?_
        rintro ⟨last, rest⟩ ⟨_, rest'⟩ ⟨rfl, hrest⟩
        dsimp only
        cases rangeOf first last with
        | error e => exact .error
        | ok s => exact .ok ⟨rfl, hrest⟩
  · rename_i hdash
    split
    · obtain ⟨more, rfl, _⟩ := h.cons_right (by decide)
      exact absurd rfl (hdash more)
    · exact .ok ⟨rfl, h⟩

theorem readRange_follows (flags : Flags) {cs cs' : List Char} (h : Enclosed tail cs cs') :
    Follows (Alike tail) (readRange flags cs) (readRange flags cs') := by
  refine (readItem_follows flags h).bind ?_
  rintro ⟨first, rest⟩ ⟨_, rest'⟩ ⟨rfl, hrest⟩
  exact readRangeEnd_follows flags first (hrest.settle flags)

theorem leadingDashes_alike (flags : Flags) (n : Nat) :
    ∀ cs cs' m, Enclosed tail cs cs' → cs.length ≤ n → cs'.length ≤ m →
      Alike tail (leadingDashes flags n cs) (leadingDashes flags m cs') := by
  have hstop : ∀ m cs, cs.head? ≠ some '-' → leadingDashes flags m cs = (0, cs) := by
    intro m cs hdash
    cases m with
    | zero => rfl
    | succ m =>
      cases cs with
      | nil => rfl
      | cons c rest =>
        rw [leadingDashes]
        intro _ _ _ he
        cases he
        exact hdash rfl
  induction n with
  | zero =>
    intro cs cs' m h hn hm
    obtain rfl := List.length_eq_zero_iff.mp (Nat.le_zero.mp hn)
    rw [hstop m cs' (by rcases h.nil with rfl | rfl <;> simp [Tail.closed])]
    exact ⟨rfl, h⟩
  | succ n ih =>
    intro cs cs' m h hn hm
    cases cs with
    | nil =>
      rw [hstop _ _ (by decide), hstop m cs' (by rcases h.nil with rfl | rfl <;> simp [Tail.closed])]
      exact ⟨rfl, h⟩
    | cons c rest =>
      obtain ⟨more, rfl, hrest⟩ := h.cons
      by_cases hc : c = '-'
      · subst hc
        cases m with
        | zero => cases hm
        | succ m =>
          simp only [List.length_cons] at hn hm
          have hs := settle_length flags rest
          have hs' := settle_length flags more
          obtain ⟨hk, hafter⟩ := ih _ _ m (hrest.settle flags) (by omega) (by omega)
          exact ⟨congrArg (· + 1) hk, hafter⟩
      · rw [hstop _ _ (by simpa using hc), hstop _ _ (by simpa using hc)]
        exact ⟨rfl, h⟩

theorem leadingCaret_alike (flags : Flags) {cs cs' : List Char} (h : Enclosed tail cs cs') :
    Alike tail (leadingCaret flags cs) (leadingCaret flags cs') := by
  unfold leadingCaret
  split
  · obtain ⟨more, rfl, hrest⟩ := h.cons
    exact ⟨rfl, hrest.settle flags⟩
  · rename_i hcaret
    split
    · obtain ⟨rest, rfl, _⟩ := h.cons_right (by decide)
      exact absurd rfl (hcaret rest)
    · exact ⟨rfl, h⟩

theorem leadingItems_alike (flags : Flags) {cs cs' : List Char} (h : Enclosed tail cs cs') :
    Alike tail (leadingItems flags cs) (leadingItems flags cs') := by
  have hdashes := leadingDashes_alike flags _ cs cs' _ h (Nat.le_refl _) (Nat.le_refl _)
  unfold leadingItems
  generalize leadingDashes flags cs.length cs = a, leadingDashes flags cs'.length cs' = b at hdashes
  obtain ⟨dashes, rest⟩ := a
  obtain ⟨_, rest'⟩ := b
  obtain ⟨rfl, hrest⟩ := hdashes
  split
  · rename_i he
    cases he
    obtain ⟨more, rfl, hmore⟩ := hrest.cons
    exact ⟨rfl, hmore.settle flags⟩
  · rename_i hbracket he
    cases he
    split
    · rename_i he
      cases he
      obtain ⟨more, rfl, _⟩ := hrest.cons_right (by decide)
      exact (hbracket more rfl rfl).elim
    · rename_i he
      cases he
      exact ⟨rfl, hrest⟩

theorem openClass_alike (flags : Flags) {cs cs' : List Char} (h : Enclosed tail cs cs') :
    (openClass flags cs).1 = (openClass flags cs').1 ∧
      Alike tail (openClass flags cs).2 (openClass flags cs').2 := by
  obtain ⟨hnegated, hrest⟩ := leadingCaret_alike flags (h.settle flags)
  exact ⟨hnegated, leadingItems_alike flags hrest⟩

theorem setOperator?_append (cs : List Char) :
    setOperator? (cs ++ tail.closed) =
      (setOperator? cs).map fun (op, rest) => (op, rest ++ tail.closed) := by
  rcases cs with _ | ⟨c, _ | ⟨d, rest⟩⟩
  · rw [List.nil_append, Tail.closed]
    cases tail.text with
    | nil => rfl
    | cons d rest => simp [setOperator?]
  · simp only [List.cons_append, List.nil_append, Tail.closed, setOperator?]
    split
    · subst c
      rfl
    · rfl
  · simp only [List.cons_append, setOperator?]
    split
    · split <;> rfl
    · rfl

theorem readClass_follows (flags : Flags) (n : Nat) :
    (∀ cs cs' m, Enclosed tail cs cs' →
      Follows (Alike tail) (readClass flags n cs) (readClass flags m cs')) ∧
    ∀ negated pending items cs cs' m, Enclosed tail cs cs' →
      Follows (Alike tail) (readSetItems flags n negated pending items cs)
        (readSetItems flags m negated pending items cs') := by
  induction n with
  | zero => exact ⟨fun _ _ _ _ => .error, fun _ _ _ _ _ _ _ => .error⟩
  | succ n ih =>
    obtain ⟨ihClass, ihItems⟩ := ih
    refine ⟨fun cs cs' m h => ?_, fun negated pending items cs cs' m h => ?_⟩ <;>
      obtain _ | m := m
    · exact .error_right
    · obtain ⟨hnegated, hitems, hrest⟩ := openClass_alike flags h
      rw [readClass, readClass]
      dsimp only
      rw [hnegated, hitems]
      exact ihItems _ _ _ _ _ m hrest
    · exact .error_right
    · have hsettled := h.settle flags
      rw [readSetItems, readSetItems]
      generalize settle flags cs = cs, settle flags cs' = cs' at hsettled
      cases cs with
      | nil => exact .error
      | cons c rest =>
        obtain rfl := hsettled.of_cons
        dsimp only
        split
        · rw [asciiClass?_append]
          cases asciiClass? flags rest with
          | none =>
            refine (ihClass _ _ m (.append rest)).bind ?_
            rintro ⟨inner, rest⟩ ⟨_, rest'⟩ ⟨rfl, hrest⟩
            exact ihItems _ _ _ _ _ m hrest
          | some named =>
            obtain ⟨s, rest⟩ := named
            cases s with
            | error e => exact .error
            | ok s => exact ihItems _ _ _ _ _ m (.append rest)
        · cases complement flags negated (foldCase flags (closeOperand flags pending items).set) with
          | error e => exact .error
          | ok s => exact .ok ⟨rfl, .append rest⟩
        · rw [← List.cons_append, setOperator?_append]
          cases setOperator? (c :: rest) with
          | some operator => exact ihItems _ _ _ _ _ m (.append operator.2)
          | none =>
            refine (readRange_follows flags hsettled).bind ?_
            rintro ⟨s, rest⟩ ⟨_, rest'⟩ ⟨rfl, hrest⟩
            exact ihItems _ _ _ _ _ m hrest

end TemplateBench.Regex
