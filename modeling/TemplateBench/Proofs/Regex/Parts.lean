import TemplateBench.Proofs.Regex.Spliced
import TemplateBench.Proofs.Regex.Ways

/-!
Expressions put together from blanks, characters and words, each word in a named group.

* `read_parts`: such an expression is read part by part, and so its pattern is known.
* `Takes`: what the parts match, one after the other, and the words among it.
* `matchAt_parts`, `exists_matchAt_parts`: the pattern matches a text if its parts take all of it,
  and the groups of the match capture the words.
-/
namespace TemplateBench.Regex
open Text

/-! ## Parts -/

/-- Blanks, of which there may have to be one, a character, or a word in a named group. -/
inductive Part
  | blanks (needed : Bool)
  | char (c : Char)
  | word (name : String)
  deriving DecidableEq

/-- One character or more, none of them white space. -/
def wordPattern : Pattern := .times (.chars (.compl .blank)) 1 none true

namespace Part

def text : Part → List Char
  | .blanks needed => "[\\t ]".toList ++ [repeatMark needed]
  | .char c => if isMeta c then ['\\', c] else [c]
  | .word name => '(' :: '?' :: 'P' :: '<' :: (name.toList ++ '>' :: "\\S+)".toList)

/-- What a part is read as behind `k` groups. -/
def piece (k : Nat) : Part → Piece
  | .blanks needed => ⟨.times blanksPiece.pattern needed.toNat none true, 3⟩
  | .char c => charPiece {} c
  | .word _ => ⟨.group (k + 1) wordPattern, 2⟩

def names : Part → List String
  | .word name => [name]
  | _ => []

end Part

/-- The text of an expression, behind the start of a line and up to its end. -/
def partsText (parts : List Part) : List Char := parts.flatMap Part.text ++ ['$']

def partNames (parts : List Part) : List String := parts.flatMap Part.names

/-- What parts are read as behind `k` groups. -/
def partPieces (k : Nat) : List Part → List Piece
  | [] => []
  | p :: parts => p.piece k :: partPieces (k + p.names.length) parts

def partPatterns (k : Nat) (parts : List Part) : List Pattern :=
  (partPieces k parts).map (·.pattern)

/-- The pattern of parts between the start of a text and its end. -/
def partsPattern (parts : List Part) : Pattern :=
  Pattern.seqs (partPatterns 0 parts ++ [.look .stop])

/-! ## Reading -/

/-- A name that a group may have. -/
def isGroupName : List Char → Bool
  | [] => false
  | c :: rest => isNameStart c && rest.all isNameChar

theorem readName_eq_ok {name more : List Char} (hname : isGroupName name = true)
    (hend : '>' ∉ name) : readName (name ++ '>' :: more) = .ok (String.ofList name, more) := by
  have hall : ∀ c ∈ name, decide (c ≠ '>') = true := fun c hc =>
    decide_eq_true fun he => hend (he ▸ hc)
  have hspan : (name ++ '>' :: more).span (· ≠ '>') = (name, '>' :: more) := by
    rw [List.span_eq_takeWhile_dropWhile, List.takeWhile_append_of_pos hall,
      List.dropWhile_append_of_pos hall]
    simp
  rw [readName, readUpTo, hspan]
  cases name with
  | nil => cases hname
  | cons c tail =>
    rw [isGroupName] at hname
    simp only [if_true, bind, Except.bind, hname]
    rfl

section

variable (n : Nat) (items : List (Option Piece)) (groups : List (Option String))

theorem readBranches_word (rest : List Char) :
    readBranches (n + 4) [] { rest := "\\S+)".toList ++ rest, groups } =
      .ok (⟨wordPattern, 1⟩, { rest := ')' :: rest, groups }) := by
  have hfirst : readBranch (n + 3) [] { rest := "\\S+)".toList ++ rest, groups } =
      readBranch (n + 2) [some ⟨.chars (.compl .blank), 0⟩] { rest := '+' :: ')' :: rest, groups } := by
    rw [readBranch]
    rfl
  have hhead : (')' :: rest).head? ≠ some '?' := by simp
  have hsecond := readBranch_repeated (n + 1) [] groups ⟨.chars (.compl .blank), 0⟩ true hhead
  have hlast : readBranch (n + 1) [some ⟨wordPattern, 1⟩] { rest := ')' :: rest, groups } =
      .ok (⟨wordPattern, 1⟩, { rest := ')' :: rest, groups }) := by
    rw [readBranch]
    rfl
  rw [readBranches, hfirst, show '+' = repeatMark true from rfl, hsecond]
  rw [show (⟨.times (.chars (.compl .blank)) true.toNat none true, 0 + 1⟩ : Piece) =
    ⟨wordPattern, 1⟩ from rfl, hlast]
  rfl

theorem readBranch_word {name : String} (hname : isGroupName name.toList = true)
    (hend : '>' ∉ name.toList) (hnew : some name ∉ groups) (rest : List Char) :
    readBranch (n + 5) items { rest := (Part.word name).text ++ rest, groups } =
      readBranch (n + 4) (some ((Part.word name).piece groups.length) :: items)
        { rest, groups := some name :: groups } := by
  have htext : (Part.word name).text ++ rest =
      '(' :: '?' :: 'P' :: '<' :: (name.toList ++ '>' :: ("\\S+)".toList ++ rest)) := by
    simp [Part.text]
  have hsettle : ∀ cs, settle {} cs = cs := fun _ => rfl
  have hopening : readOpening {} ('?' :: 'P' :: '<' ::
      (name.toList ++ '>' :: ("\\S+)".toList ++ rest))) =
      .ok (.capture (some name), "\\S+)".toList ++ rest) := by
    have hmark : readOpening {} ('?' :: 'P' :: '<' ::
        (name.toList ++ '>' :: ("\\S+)".toList ++ rest))) =
        (readName (name.toList ++ '>' :: ("\\S+)".toList ++ rest)) >>=
          fun x => pure (.capture (some x.1), x.2)) := rfl
    rw [hmark, readName_eq_ok hname hend, String.ofList_toList]
    rfl
  rw [htext, readBranch, hsettle]
  dsimp only
  rw [hopening]
  simp only [bind, Except.bind]
  rw [if_neg (by simpa using hnew), readBranches_word]
  rfl

end

theorem head?_partsText (parts : List Part) : (partsText parts).head? ≠ some '?' := by
  cases parts with
  | nil => simp [partsText]
  | cons p parts =>
    rw [partsText, List.flatMap_cons]
    cases p with
    | blanks | word => simp [Part.text]
    | char c =>
      rw [Part.text]
      split
      · simp
      · rename_i hc
        have hne := ne_of_isMeta_eq_false (show isMeta '?' = true by decide)
          (Bool.eq_false_iff.mpr hc)
        simpa using hne

/-- The names of parts can be given to groups. -/
def Nameable (parts : List Part) : Prop :=
  ∀ name ∈ partNames parts, isGroupName name.toList = true ∧ '>' ∉ name.toList

theorem partsText_cons (p : Part) (parts : List Part) :
    partsText (p :: parts) = p.text ++ partsText parts := by
  rw [partsText, List.flatMap_cons, List.append_assoc]
  rfl

/-- Parts are read as one branch, one after the other. -/
theorem readBranch_parts (parts : List Part) (hnames : Nameable parts) :
    ∀ (n : Nat) (items : List (Option Piece)) (groups : List (Option String)),
      ((partNames parts).reverse.map some ++ groups).Nodup → (partsText parts).length + 4 ≤ n →
      readBranch n items { rest := partsText parts, groups } =
        .ok (branchOf (some ⟨.look .stop, 0⟩ ::
          (((partPieces groups.length parts).map some).reverse ++ items)),
          { rest := [], groups := (partNames parts).reverse.map some ++ groups }) := by
  induction parts with
  | nil =>
    intro n items groups _ hn
    obtain ⟨n, rfl⟩ : ∃ k, n = k + 2 := ⟨n - 2, by omega⟩
    rw [show partsText [] = '$' :: [] from rfl, readBranch_dollar, readBranch_nil _ _ _ rfl]
    rfl
  | cons p parts ih =>
    intro n items groups hnodup hn
    have hnames' : Nameable parts := fun name hm => hnames name (by simp [partNames] at hm ⊢; simp [hm])
    have hhead := head?_partsText parts
    rw [partsText_cons, List.length_append] at hn
    rw [partsText_cons]
    cases p with
    | blanks needed =>
      have hlength : (Part.blanks needed).text.length = 6 := rfl
      obtain ⟨n, rfl⟩ : ∃ k, n = k + 2 := ⟨n - 2, by omega⟩
      have htext : (Part.blanks needed).text ++ partsText parts =
          "[\\t ]".toList ++ repeatMark needed :: partsText parts := by
        simp [Part.text]
      rw [htext, readBranch_run n items groups needed hhead, ih hnames' n _ groups hnodup (by omega)]
      simp [partPieces, Part.piece, Part.names, partNames]
    | char c =>
      rw [Part.text] at hn ⊢
      split at hn
      · rename_i hc
        obtain ⟨n, rfl⟩ : ∃ k, n = k + 1 := ⟨n - 1, by omega⟩
        rw [if_pos hc, List.cons_append, List.cons_append, List.nil_append,
          readBranch_escaped n items groups hc,
          ih hnames' n _ groups hnodup (by simp only [List.length_cons] at hn; omega)]
        simp [partPieces, Part.piece, Part.names, partNames]
      · rename_i hc
        obtain ⟨n, rfl⟩ : ∃ k, n = k + 1 := ⟨n - 1, by omega⟩
        rw [if_neg hc, List.cons_append, List.nil_append,
          readBranch_plain n items groups (Bool.eq_false_iff.mpr hc),
          ih hnames' n _ groups hnodup (by simp only [List.length_cons] at hn; omega)]
        simp [partPieces, Part.piece, Part.names, partNames]
    | word name =>
      obtain ⟨hname, hend⟩ := hnames name (by simp [partNames, Part.names])
      have hnodup' : ((partNames parts).reverse.map some ++ some name :: groups).Nodup := by
        simpa [partNames, Part.names] using hnodup
      have hnew : some name ∉ groups := (List.nodup_cons.mp hnodup'.of_append_right).1
      have hlength : 5 ≤ (Part.word name).text.length := by
        simp [Part.text]
      obtain ⟨n, rfl⟩ : ∃ k, n = k + 5 := ⟨n - 5, by omega⟩
      rw [readBranch_word n items groups hname hend hnew,
        ih hnames' (n + 4) _ (some name :: groups) hnodup' (by omega)]
      simp [partPieces, Part.names, partNames]

theorem alternativesOf_singleton (p : Piece) : alternativesOf [p] = p := by
  simp [alternativesOf, Pattern.alts]

theorem foldl_max_le {bound : Nat} (pieces : List Piece) (h : ∀ p ∈ pieces, p.depth ≤ bound) :
    ∀ d, d ≤ bound → pieces.foldl (fun d p => max d p.depth) d ≤ bound := by
  induction pieces with
  | nil => exact fun _ hd => hd
  | cons p pieces ih =>
    intro d hd
    obtain ⟨hp, hpieces⟩ := List.forall_mem_cons.mp h
    exact ih hpieces _ (Nat.max_le.mpr ⟨hd, hp⟩)

theorem depth_partPieces (parts : List Part) : ∀ k, ∀ p ∈ partPieces k parts, p.depth ≤ 3 := by
  induction parts with
  | nil => exact fun _ _ h => nomatch h
  | cons p parts ih =>
    intro k
    refine List.forall_mem_cons.mpr ⟨?_, ih _⟩
    cases p <;> simp [Part.piece, charPiece]

/-- What parts are read as between the start of a text and its end. -/
def partsPiece (parts : List Part) : Piece :=
  branchOf (some ⟨.look .stop, 0⟩ ::
    (((partPieces 0 parts).map some).reverse ++ [some ⟨.look .start, 0⟩]))

theorem pattern_partsPiece (parts : List Part) :
    (partsPiece parts).pattern = behindStart (partsPattern parts) := by
  simp [partsPiece, branchOf, behindStart, partsPattern, partPatterns, Pattern.seqs]

theorem depth_partsPiece (parts : List Part) : (partsPiece parts).depth ≤ nestLimit := by
  have hshallow : ∀ p ∈ ⟨.look .start, 0⟩ :: (partPieces 0 parts ++ [⟨.look .stop, 0⟩]),
      Piece.depth p ≤ 3 := by
    intro p hp
    simp only [List.mem_cons, List.mem_append, List.not_mem_nil, or_false] at hp
    rcases hp with rfl | hp | rfl
    · exact Nat.zero_le 3
    · exact depth_partPieces parts 0 p hp
    · exact Nat.zero_le 3
  have hfold := foldl_max_le _ hshallow 0 (Nat.zero_le 3)
  simp [partsPiece, branchOf, nestLimit] at hfold ⊢
  omega

/-- **Parts.** Between the start of the text and its end, parts are read as a sequence of their own
patterns, and their groups are numbered in order, unless this takes too much memory. -/
theorem read_parts {parts : List Part} (hnames : Nameable parts)
    (hnodup : (partNames parts).Nodup) :
    read ('^' :: partsText parts) =
      if (behindStart (partsPattern parts)).footprint ≤ Pattern.sizeLimit then
        .ok ⟨behindStart (partsPattern parts), (partNames parts).map some⟩
      else .error .malformed := by
  have hnodup' : ((partNames parts).reverse.map some ++ ([] : List (Option String))).Nodup := by
    rw [List.append_nil]
    exact (List.nodup_reverse.mpr hnodup).map (Option.some_injective _)
  have hbranch := readBranch_parts parts hnames (2 * (partsText parts).length + 3)
    [some ⟨.look .start, 0⟩] [] hnodup' (by simp [partsText]; omega)
  have hfuel : 2 * ('^' :: partsText parts).length + 3 =
      2 * (partsText parts).length + 3 + 1 + 1 := by
    rw [List.length_cons]
    omega
  have hbranches : readBranches (2 * ('^' :: partsText parts).length + 3) []
      { rest := '^' :: partsText parts } =
      .ok (partsPiece parts, { rest := [], groups := (partNames parts).reverse.map some }) := by
    rw [hfuel, readBranches, readBranch_caret, hbranch]
    simp only [bind, Except.bind, pure, Except.pure, List.reverse_singleton,
      alternativesOf_singleton, List.append_nil]
    rfl
  have hdepth := depth_partsPiece parts
  rw [read, hbranches]
  simp only [bind, Except.bind, pattern_partsPiece]
  by_cases hsize : (behindStart (partsPattern parts)).footprint ≤ Pattern.sizeLimit
  · rw [if_pos hsize, if_neg (by simpa [hdepth] using hsize)]
    simp [pure, Except.pure]
  · rw [if_neg hsize, if_pos (by simpa using Or.inr (Nat.lt_of_not_le hsize))]
    rfl

/-! ## What parts take -/

namespace Part

/-- The texts that a part matches. -/
def Reads : Part → List Char → Prop
  | .blanks needed, cs => (∀ c ∈ cs, c = '\t' ∨ c = ' ') ∧ (needed = true → cs ≠ [])
  | .char c, cs => cs = [c]
  | .word _, cs => cs ≠ [] ∧ ∀ c ∈ cs, isBlank c = false

/-- The word that a part captures. -/
def captures : Part → List Char → List (List Char)
  | .word _, cs => [cs]
  | _, _ => []

/-- The borders that a part sets behind `k` groups. -/
def borders (k i : Nat) : Part → List Char → List Border
  | .word _, cs => [.closed (k + 1) (i + cs.length), .opened (k + 1) i]
  | _, _ => []

end Part

/-- What parts match, one after the other, and the words that they capture. -/
inductive Takes : List Part → List Char → List (List Char) → Prop
  | nil : Takes [] [] []
  | cons {p : Part} {parts : List Part} {front back : List Char} {ws : List (List Char)} :
      p.Reads front → Takes parts back ws → Takes (p :: parts) (front ++ back) (p.captures front ++ ws)

theorem takes_append_iff {parts more : List Part} {cs : List Char} {ws : List (List Char)} :
    Takes (parts ++ more) cs ws ↔ ∃ front back first last, Takes parts front first ∧
      Takes more back last ∧ cs = front ++ back ∧ ws = first ++ last := by
  constructor
  · intro h
    induction parts generalizing cs ws with
    | nil => exact ⟨[], cs, [], ws, .nil, h, rfl, rfl⟩
    | cons p parts ih =>
      obtain _ | ⟨hp, h⟩ := h
      obtain ⟨front, back, first, last, hparts, hmore, rfl, rfl⟩ := ih h
      exact ⟨_, back, _, last, .cons hp hparts, hmore, by rw [List.append_assoc],
        by rw [List.append_assoc]⟩
  · rintro ⟨front, back, first, last, hparts, hmore, rfl, rfl⟩
    induction hparts with
    | nil => exact hmore
    | cons hp _ ih =>
      rw [List.append_assoc, List.append_assoc]
      exact .cons hp ih

/-! ## Ways through parts -/

theorem mem_single_iff {c d : Char} : (CharSet.single c).mem d = true ↔ d = c := by
  rw [CharSet.single, CharSet.mem, Bool.and_eq_true, decide_eq_true_eq, decide_eq_true_eq]
  constructor
  · rintro ⟨h, h'⟩
    exact Char.le_antisymm h' h
  · rintro rfl
    exact ⟨Char.le_refl _, Char.le_refl _⟩

section

variable {text : List Char} {rest : List Task} {borders : List Border} {stop : Nat}

/-- A way goes through a part by what the part reads. -/
theorem way_part_iff {p : Part} {k i : Nat} :
    Way text ⟨i, .run (p.piece k).pattern :: rest⟩ borders ⟨stop, []⟩ ↔
      ∃ front after more, text.drop i = front ++ after ∧ p.Reads front ∧
        Way text ⟨i + front.length, rest⟩ more ⟨stop, []⟩ ∧ borders = more ++ p.borders k i front := by
  cases p with
  | blanks needed =>
    have hmem : ∀ c, (CharSet.union (CharSet.single '\t') (CharSet.single ' ')).mem c = true ↔
        c = '\t' ∨ c = ' ' := by
      intro c
      rw [CharSet.mem, Bool.or_eq_true, mem_single_iff, mem_single_iff]
    have hneeded : ∀ front : List Char, needed.toNat ≤ front.length ↔ (needed = true → front ≠ []) := by
      intro front
      cases needed <;> cases front <;> simp
    simp only [Part.piece, blanksPiece, Part.Reads, Part.borders, List.append_nil]
    rw [way_many_iff (by cases needed <;> decide)]
    simp only [hmem, hneeded]
    constructor
    · rintro ⟨front, after, hdrop, hblank, hne, h⟩
      exact ⟨front, after, borders, hdrop, ⟨hblank, hne⟩, h, rfl⟩
    · rintro ⟨front, after, _, hdrop, ⟨hblank, hne⟩, h, rfl⟩
      exact ⟨front, after, hdrop, hblank, hne, h⟩
  | char c =>
    have hpattern : ((Part.char c).piece k).pattern = .chars (CharSet.single c) := rfl
    rw [hpattern, way_chars_iff]
    simp only [mem_single_iff, Part.Reads, Part.borders, List.append_nil]
    constructor
    · rintro ⟨_, hc, rfl, h⟩
      obtain ⟨hlt, hget⟩ := List.getElem?_eq_some_iff.mp hc
      refine ⟨[_], text.drop (i + 1), borders, ?_, rfl, h, rfl⟩
      rw [List.drop_eq_getElem_cons hlt, hget]
      rfl
    · rintro ⟨_, after, _, hdrop, rfl, h, rfl⟩
      exact ⟨c, (drop_eq_cons hdrop).1, rfl, h⟩
  | word name =>
    have hmem : ∀ c, (CharSet.compl .blank).mem c = true ↔ isBlank c = false := by
      intro c
      rw [CharSet.mem, CharSet.mem, Bool.not_eq_true']
    simp only [Part.piece, wordPattern, Part.Reads, Part.borders]
    rw [way_group_iff]
    simp only [way_many_iff (Nat.le_refl 1), way_close_iff, hmem]
    constructor
    · rintro ⟨_, ⟨front, after, hdrop, hword, hlength, more, h, rfl⟩, rfl⟩
      refine ⟨front, after, more, hdrop, ⟨?_, hword⟩, h, by simp⟩
      rintro rfl
      cases hlength
    · rintro ⟨front, after, more, hdrop, ⟨hne, hword⟩, h, rfl⟩
      exact ⟨_, ⟨front, after, hdrop, hword, List.length_pos_iff.mpr hne, more, h, rfl⟩, by simp⟩

/-- Borders of the groups from `k` on, one for each word, where the words are in the text. -/
structure Captured (text : List Char) (k : Nat) (ws : List (List Char)) (own : List Border) :
    Prop where
  apart : ∀ b ∈ own, k < b.group
  spans : ∀ j w, ws[j]? = some w → ∃ start, own.findSome? (Border.openedAt (k + j + 1)) = some start ∧
    own.findSome? (Border.closedAt (k + j + 1)) = some (start + w.length) ∧
    (text.drop start).take w.length = w

theorem Captured.cons {p : Part} {k i : Nat} {ws : List (List Char)} {own : List Border}
    {front after : List Char} (h : Captured text (k + p.names.length) ws own)
    (hdrop : text.drop i = front ++ after) :
    Captured text k (p.captures front ++ ws) (own ++ p.borders k i front) := by
  cases p with
  | blanks | char => simpa [Part.captures, Part.borders, Part.names] using h
  | word name =>
    have hk : k + (Part.word name).names.length = k + 1 := rfl
    rw [hk] at h
    refine ⟨List.forall_mem_append.mpr ⟨fun b hb => Nat.lt_of_succ_lt (h.apart b hb), ?_⟩, ?_⟩
    · simp [Part.borders, Border.group]
    · intro j w hj
      cases j with
      | zero =>
        obtain rfl : front = w := by simpa [Part.captures] using hj
        have hne : ∀ b ∈ own, b.group ≠ k + 1 := fun b hb => Nat.ne_of_gt (h.apart b hb)
        have hopened : own.findSome? (Border.openedAt (k + 1)) = none :=
          List.findSome?_eq_none_iff.mpr fun b hb => Border.openedAt_of_ne (hne b hb)
        have hclosed : own.findSome? (Border.closedAt (k + 1)) = none :=
          List.findSome?_eq_none_iff.mpr fun b hb => Border.closedAt_of_ne (hne b hb)
        refine ⟨i, ?_, ?_, by rw [hdrop, List.take_left]⟩
        · simp [Part.borders, List.findSome?_append, List.findSome?_cons, hopened, Border.openedAt]
        · simp [Part.borders, List.findSome?_append, hclosed, Border.closedAt]
      | succ j =>
        obtain ⟨start, hopened, hclosed, htext⟩ := h.spans j w (by simpa [Part.captures] using hj)
        have hindex : k + (j + 1) + 1 = k + 1 + j + 1 := by omega
        refine ⟨start, ?_, ?_, htext⟩
        · rw [hindex, List.findSome?_append, hopened, Option.some_or]
        · rw [hindex, List.findSome?_append, hclosed, Option.some_or]

theorem Way.takes {parts : List Part} {k i : Nat}
    (h : Way text ⟨i, (partPatterns k parts).map .run ++ rest⟩ borders ⟨stop, []⟩) :
    ∃ front after ws more own, text.drop i = front ++ after ∧ Takes parts front ws ∧
      Way text ⟨i + front.length, rest⟩ more ⟨stop, []⟩ ∧ borders = more ++ own ∧
      Captured text k ws own := by
  induction parts generalizing k i borders with
  | nil => exact ⟨[], _, [], borders, [], rfl, .nil, h, by simp, ⟨by simp, by simp⟩⟩
  | cons p parts ih =>
    obtain ⟨front, after, more, hdrop, hreads, hmore, rfl⟩ := way_part_iff.mp h
    obtain ⟨back, after', ws, last, own, hback, htakes, hlast, rfl, hcaptured⟩ := ih hmore
    have hafter : after = back ++ after' := by
      rw [← hback, ← List.drop_drop, hdrop, List.drop_left]
    refine ⟨front ++ back, after', p.captures front ++ ws, last, own ++ p.borders k i front, ?_,
      .cons hreads htakes, ?_, List.append_assoc .., hcaptured.cons hdrop⟩
    · rw [hdrop, hafter, List.append_assoc]
    · rwa [List.length_append, ← Nat.add_assoc]

theorem Takes.exists_way {parts : List Part} {front after : List Char} {ws : List (List Char)}
    (h : Takes parts front ws) {k i : Nat} (hdrop : text.drop i = front ++ after)
    {more : List Border} (hmore : Way text ⟨i + front.length, rest⟩ more ⟨stop, []⟩) :
    ∃ borders, Way text ⟨i, (partPatterns k parts).map .run ++ rest⟩ borders ⟨stop, []⟩ := by
  induction h generalizing k i with
  | nil => exact ⟨more, hmore⟩
  | @cons p parts front back ws hp _ ih =>
    rw [List.append_assoc] at hdrop
    rw [List.length_append, ← Nat.add_assoc] at hmore
    have hback : text.drop (i + front.length) = back ++ after := by
      rw [← List.drop_drop, hdrop, List.drop_left]
    obtain ⟨borders, h⟩ := ih (k := k + p.names.length) hback hmore
    exact ⟨_, way_part_iff.mpr ⟨front, _, borders, hdrop, hp, h, rfl⟩⟩

end

/-! ## Matches of parts -/

section

variable {parts : List Part} {text : List Char}

theorem way_partsPattern_iff {borders : List Border} {stop : Nat} :
    Way text ⟨0, [.run (partsPattern parts)]⟩ borders ⟨stop, []⟩ ↔
      Way text ⟨0, (partPatterns 0 parts).map .run ++ [.run (.look .stop)]⟩ borders ⟨stop, []⟩ := by
  rw [partsPattern, way_seqs_iff, List.map_append, List.append_nil]
  rfl

/-- A match takes all of the text, and its groups capture the words in order. -/
theorem matchAt_parts {m : Match} (h : matchAt (partsPattern parts) 0 none text = some m) :
    ∃ ws, Takes parts text ws ∧
      ∀ j w, ws[j]? = some w → groupText text m (j + 1) = some (String.ofList w) := by
  have hmatch : matchAt (partsPattern parts) 0 (placeAt text 0).before (text.drop 0) = some m := h
  have hway := way_partsPattern_iff.mp (exists_way hmatch)
  obtain ⟨front, after, ws, more, own, hdrop, htakes, hstop, hborders, hcaptured⟩ := hway.takes
  rw [List.drop_zero] at hdrop
  obtain ⟨hend, hlast⟩ := way_look_iff.mp hstop
  obtain ⟨_, rfl⟩ := way_nil_iff.mp hlast
  have hafter : after = [] := by
    have hnone : text[0 + front.length]? = none := by simpa [Look.holds, placeAt] using hend
    rw [hdrop] at hnone
    simpa using hnone
  rw [hafter, List.append_nil] at hdrop
  refine ⟨ws, hdrop ▸ htakes, fun j w hj => ?_⟩
  obtain ⟨start, hopened, hclosed, htext⟩ := hcaptured.spans j w hj
  rw [Nat.zero_add] at hopened hclosed
  have hspan : m.group? (j + 1) = some (start, start + w.length) :=
    Match.group?_eq_some_iff.mpr ⟨by rw [hborders]; exact hopened, by rw [hborders]; exact hclosed⟩
  rw [groupText_eq, hspan, Option.map_some, Nat.add_sub_cancel_left, htext]

theorem exists_matchAt_parts {ws : List (List Char)} (h : Takes parts text ws) :
    ∃ m, matchAt (partsPattern parts) 0 none text = some m := by
  have hend : Way text ⟨0 + text.length, [.run (.look .stop)]⟩ [] ⟨0 + text.length, []⟩ :=
    way_look_iff.mpr ⟨by simp [Look.holds, placeAt], .refl _⟩
  have hdrop : text.drop 0 = text ++ [] := by simp
  obtain ⟨borders, hway⟩ := h.exists_way (k := 0) hdrop hend
  exact exists_matchAt (way_partsPattern_iff.mpr hway).reaches

end

end TemplateBench.Regex
