import Mathlib.Data.List.Forall2
import TemplateBench.TextFsm.Placeholder

/-!
What a pattern is made of.

* `Cuts`: a pattern is cut into characters, double dollar signs and placeholders, in one way only
  (`Cuts.unique`).
* `Shows`: each piece is replaced by its text.
* `Mentions`: a value has a placeholder in a pattern.
-/
namespace TemplateBench.TextFsm

inductive Piece
  | char (c : Char)
  | dollar
  | value (name : List Char)
  deriving DecidableEq

/-- How a pattern is cut. A bare name goes on as far as it can. -/
inductive Cuts : List Char → List Piece → Prop
  | nil : Cuts [] []
  | char {c : Char} {cs : List Char} {pieces : List Piece} : c ≠ '$' → Cuts cs pieces →
      Cuts (c :: cs) (.char c :: pieces)
  | dollar {cs : List Char} {pieces : List Piece} : Cuts cs pieces →
      Cuts ('$' :: '$' :: cs) (.dollar :: pieces)
  | braced {name cs : List Char} {pieces : List Piece} : isIdentifier name = true →
      Cuts cs pieces → Cuts ('$' :: '\x7b' :: (name ++ '\x7d' :: cs)) (.value name :: pieces)
  | bare {name cs : List Char} {pieces : List Piece} : isIdentifier name = true →
      (∀ c ∈ cs.head?, isNameChar c = false) → Cuts cs pieces →
      Cuts ('$' :: (name ++ cs)) (.value name :: pieces)

/-- A value has a placeholder in a pattern. -/
def Mentions (pattern : List Char) (name : String) : Prop :=
  ∃ pieces, Cuts pattern pieces ∧ .value name.toList ∈ pieces

/-! ## Names -/

theorem isNameChar_of_isNameStart {c : Char} (h : isNameStart c = true) : isNameChar c = true := by
  simp only [isNameStart, Bool.or_eq_true] at h
  rcases h with h | h
  · simp [isNameChar, h]
  · simp [isNameChar, Text.isAsciiAlphanumeric, h]

theorem forall_isNameChar {name : List Char} (h : isIdentifier name = true) :
    ∀ c ∈ name, isNameChar c = true := by
  cases name with
  | nil => cases h
  | cons c rest =>
    rw [isIdentifier, Bool.and_eq_true, List.all_eq_true] at h
    exact List.forall_mem_cons.mpr ⟨isNameChar_of_isNameStart h.1, h.2⟩

/-- A name begins with neither a dollar sign nor a brace. -/
theorem exists_cons_of_isIdentifier {name : List Char} (h : isIdentifier name = true) :
    ∃ c rest, name = c :: rest ∧ c ≠ '$' ∧ c ≠ '\x7b' := by
  cases name with
  | nil => cases h
  | cons c rest =>
    rw [isIdentifier, Bool.and_eq_true] at h
    exact ⟨c, rest, rfl, by rintro rfl; exact absurd h.1 (by decide),
      by rintro rfl; exact absurd h.1 (by decide)⟩

/-- A name ends where its characters do. -/
theorem takeWhile_name {name cs : List Char} (h : isIdentifier name = true)
    (hcs : ∀ c ∈ cs.head?, isNameChar c = false) :
    (name ++ cs).takeWhile isNameChar = name := by
  rw [List.takeWhile_append_of_pos (forall_isNameChar h)]
  cases cs with
  | nil => simp
  | cons c rest => simp [hcs c rfl]

theorem name_unique {name name' cs cs' : List Char} (h : isIdentifier name = true)
    (h' : isIdentifier name' = true) (hcs : ∀ c ∈ cs.head?, isNameChar c = false)
    (hcs' : ∀ c ∈ cs'.head?, isNameChar c = false) (he : name ++ cs = name' ++ cs') :
    name = name' ∧ cs = cs' := by
  have hname : name = name' := by
    rw [← takeWhile_name h hcs, ← takeWhile_name h' hcs', he]
  subst hname
  exact ⟨rfl, List.append_cancel_left he⟩

/-! ## Cuts -/

namespace Cuts

variable {cs : List Char} {pieces : List Piece}

theorem isIdentifier_of_mem (h : Cuts cs pieces) {name : List Char}
    (hm : .value name ∈ pieces) : isIdentifier name = true := by
  induction h with
  | nil => cases hm
  | char _ _ ih => exact ih (by simpa using hm)
  | dollar _ ih => exact ih (by simpa using hm)
  | braced hname _ ih | bare hname _ _ ih =>
    rcases List.mem_cons.mp hm with he | hm
    · cases he
      exact hname
    · exact ih hm

/-- Without a dollar sign there are characters only. -/
theorem chars {cs : List Char} (h : '$' ∉ cs) : Cuts cs (cs.map .char) := by
  induction cs with
  | nil => exact .nil
  | cons c cs ih =>
    rw [List.mem_cons, not_or] at h
    exact .char (Ne.symm h.1) (ih h.2)

/-- There is one way to cut a pattern. -/
theorem unique (h : Cuts cs pieces) {pieces' : List Piece} (h' : Cuts cs pieces') :
    pieces = pieces' := by
  induction h generalizing pieces' with
  | nil =>
    cases h'
    rfl
  | char hc _ ih =>
    cases h' with
    | char _ h' => rw [ih h']
    | dollar | braced | bare => exact absurd rfl hc
  | dollar _ ih =>
    generalize htext : '$' :: '$' :: _ = text at h'
    cases h' with
    | nil => cases htext
    | char hc _ =>
      cases htext
      exact absurd rfl hc
    | dollar h' =>
      cases htext
      rw [ih h']
    | braced _ _ => cases htext
    | bare hname _ _ =>
      obtain ⟨c, rest, rfl, hc, _⟩ := exists_cons_of_isIdentifier hname
      cases htext
      exact absurd rfl hc
  | @braced name _ _ hname _ ih =>
    generalize htext : '$' :: '\x7b' :: _ = text at h'
    cases h' with
    | nil => cases htext
    | char hc _ =>
      cases htext
      exact absurd rfl hc
    | dollar _ => cases htext
    | braced hname' h' =>
      have hrest := (List.cons.inj (List.cons.inj htext).2).2
      obtain ⟨rfl, hcs⟩ := name_unique hname hname' (by simp; decide) (by simp; decide) hrest
      cases hcs
      rw [ih h']
    | bare hname' _ _ =>
      obtain ⟨c, rest, rfl, _, hc⟩ := exists_cons_of_isIdentifier hname'
      cases (List.cons.inj (List.cons.inj htext).2).1
      exact absurd rfl hc
  | @bare name _ _ hname hend _ ih =>
    generalize htext : '$' :: _ = text at h'
    obtain ⟨c, rest, rfl, hdollar, hbrace⟩ := exists_cons_of_isIdentifier hname
    cases h' with
    | nil => cases htext
    | char hc _ =>
      cases htext
      exact absurd rfl hc
    | dollar _ => exact absurd (List.cons.inj (List.cons.inj htext).2).1 hdollar
    | braced _ _ => exact absurd (List.cons.inj (List.cons.inj htext).2).1 hbrace
    | bare hname' hend' h' =>
      obtain ⟨hnames, rfl⟩ := name_unique hname hname' hend hend' (List.cons.inj htext).2
      rw [hnames, ih h']

end Cuts

/-! ## Expansion -/

def Piece.text (templates : Templates) : Piece → Except PlaceholderError (List Char)
  | .char c => .ok [c]
  | .dollar => .ok ['$']
  | .value name => lookUp templates name

/-- A text is what the pieces of a pattern are replaced by, one after the other. -/
def Shows (templates : Templates) (cs out : List Char) : Prop :=
  ∃ pieces texts, Cuts cs pieces ∧
    List.Forall₂ (fun piece text => piece.text templates = .ok text) pieces texts ∧
    out = texts.flatten

theorem Shows.cons {templates : Templates} {cs cs' out text : List Char} {piece : Piece}
    (h : Shows templates cs out) (htext : piece.text templates = .ok text)
    (hcut : ∀ pieces, Cuts cs pieces → Cuts cs' (piece :: pieces)) :
    Shows templates cs' (text ++ out) := by
  obtain ⟨pieces, texts, hcuts, htexts, rfl⟩ := h
  exact ⟨piece :: pieces, text :: texts, hcut pieces hcuts, .cons htext htexts, rfl⟩

end TemplateBench.TextFsm
