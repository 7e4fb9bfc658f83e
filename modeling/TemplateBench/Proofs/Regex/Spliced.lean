import Mathlib.Tactic.FinCases
import TemplateBench.Proofs.Regex.Grouped

/-!
Expressions spliced from blanks, characters and named groups, up to the end of the text.

* `Spliced`: what may be put together so that every piece stays one unit.
* `readBranch_spliced`: a spliced expression is read as one branch, which ends in the assertion that
  the text ends there.
* `read_spliced`: behind the start of the text it is one sequence up to the end of the text.
-/
namespace TemplateBench.Regex
open Text

/-- The rest of an expression that is spliced from runs of blanks, characters and named groups whose
bodies stand on their own, and reaches to the end of the text. -/
inductive Spliced : List Char → Prop
  | stop : Spliced "[\\t ]*$".toList
  | blanks {rest : List Char} : Spliced rest → Spliced ("[\\t ]+".toList ++ rest)
  | plain {c : Char} {rest : List Char} : isMeta c = false → c ≠ '\n' → Spliced rest →
      Spliced (c :: rest)
  | escaped {c : Char} {rest : List Char} : isMeta c = true → Spliced rest →
      Spliced ('\\' :: c :: rest)
  | group {name body rest : List Char} {alone : Expression} : '>' ∉ name → '\n' ∉ name →
      '\n' ∉ body → read body = .ok alone → Spliced rest →
      Spliced ('(' :: '?' :: 'P' :: '<' :: (name ++ '>' :: (body ++ ')' :: rest)))

theorem ne_of_isMeta_eq_false {c d : Char} (hd : isMeta d = true) (hc : isMeta c = false) :
    c ≠ d := by
  rintro rfl
  rw [hd] at hc
  cases hc

namespace Spliced

variable {cs : List Char}

theorem oneLine (h : Spliced cs) : '\n' ∉ cs := by
  induction h with
  | stop => decide
  | blanks _ ih => simpa using ih
  | plain _ hc _ ih => simp [ih, hc.symm]
  | escaped hc _ ih =>
    have hne := ne_of_isMeta_eq_false hc (show isMeta '\n' = false by decide)
    simp [ih, hne]
  | group _ hname hbody _ _ ih => simp [hname, hbody, ih]

theorem head?_ne (h : Spliced cs) : cs.head? ≠ some '?' := by
  cases h with
  | stop | blanks | escaped | group => simp
  | plain hc _ _ =>
    have hne := ne_of_isMeta_eq_false (show isMeta '?' = true by decide) hc
    simpa using hne

end Spliced

/-! ## Steps of a branch -/

/-- A tab or a space. -/
def blanksPiece : Piece := ⟨.chars (.union (CharSet.single '\t') (CharSet.single ' ')), 2⟩

section

variable (n : Nat) (items : List (Option Piece)) (groups : List (Option String))

theorem readBranch_blanks (rest : List Char) :
    readBranch (n + 1) items { rest := "[\\t ]".toList ++ rest, groups } =
      readBranch n (some blanksPiece :: items) { rest, groups } := by
  rw [readBranch]
  rfl

theorem readBranch_plain {c : Char} (hc : isMeta c = false) (rest : List Char) :
    readBranch (n + 1) items { rest := c :: rest, groups } =
      readBranch n (some (charPiece {} c) :: items) { rest, groups } := by
  have hsettle : settle {} (c :: rest) = c :: rest := rfl
  rw [readBranch, hsettle]
  dsimp only
  split
  case h_13 => rfl
  all_goals exact absurd hc (by decide)

theorem readEscape_meta {c : Char} (hc : isMeta c = true) (rest : List Char) :
    readEscape {} (c :: rest) = .ok (.char c false, rest) := by
  simp only [isMeta, List.contains_iff_mem] at hc
  fin_cases hc <;> rfl

theorem readBranch_escaped {c : Char} (hc : isMeta c = true) (rest : List Char) :
    readBranch (n + 1) items { rest := '\\' :: c :: rest, groups } =
      readBranch n (some (charPiece {} c) :: items) { rest, groups } := by
  have hsettle : settle {} ('\\' :: c :: rest) = '\\' :: c :: rest := rfl
  rw [readBranch, hsettle]
  dsimp only
  rw [readEscape_meta hc]
  rfl

theorem lazyMark_of_ne {rest : List Char} (h : rest.head? ≠ some '?') :
    lazyMark rest = (false, rest) := by
  unfold lazyMark
  split
  · exact absurd rfl h
  · rfl

/-- The sign for as many rounds as there are, or for at least one. -/
def repeatMark (needed : Bool) : Char := if needed then '+' else '*'

/-- A star or a plus sign repeats the piece before it, as often as it can. -/
theorem readBranch_repeated (p : Piece) (needed : Bool) {rest : List Char}
    (h : rest.head? ≠ some '?') :
    readBranch (n + 1) (some p :: items) { rest := repeatMark needed :: rest, groups } =
      readBranch n (some ⟨.times p.pattern needed.toNat none true, p.depth + 1⟩ :: items)
        { rest, groups } := by
  have hrepeat : ∀ least,
      (do
        let items ← repeatLast {} least none (lazyMark rest).1 (some p :: items)
        readBranch n items { rest := (lazyMark rest).2, groups }) =
      readBranch n (some ⟨.times p.pattern least none true, p.depth + 1⟩ :: items)
        { rest, groups } := by
    intro least
    rw [lazyMark_of_ne h]
    rfl
  cases needed with
  | false =>
    rw [readBranch]
    exact hrepeat 0
  | true =>
    rw [readBranch]
    exact hrepeat 1

/-- A repeated class of blanks becomes one piece. -/
theorem readBranch_run (needed : Bool) {rest : List Char} (hrest : rest.head? ≠ some '?') :
    readBranch (n + 2) items { rest := "[\\t ]".toList ++ repeatMark needed :: rest, groups } =
      readBranch n (some ⟨.times blanksPiece.pattern needed.toNat none true, 3⟩ :: items)
        { rest, groups } := by
  rw [readBranch_blanks, readBranch_repeated n items groups blanksPiece needed hrest]
  rfl

theorem exists_readBranch_run (needed : Bool) {rest : List Char} (hrest : rest.head? ≠ some '?')
    {r : Piece × Cursor}
    (h : readBranch n items { rest := "[\\t ]".toList ++ repeatMark needed :: rest, groups } =
      .ok r) :
    ∃ m p, readBranch m (some p :: items) { rest, groups } = .ok r := by
  obtain _ | _ | n := n
  · cases h
  · rw [readBranch_blanks] at h
    cases h
  · rw [readBranch_run n items groups needed hrest] at h
    exact ⟨n, _, h⟩

theorem readBranch_dollar (rest : List Char) :
    readBranch (n + 1) items { rest := '$' :: rest, groups } =
      readBranch n (some ⟨.look .stop, 0⟩ :: items) { rest, groups } := by
  rw [readBranch]
  rfl

/-- A name ends at the first bracket that closes. -/
theorem readName_append {name more : List Char} (hname : '>' ∉ name) {r : String × List Char}
    (h : readName (name ++ '>' :: more) = .ok r) : r = (String.ofList name, more) := by
  have hall : ∀ c ∈ name, decide (c ≠ '>') = true := fun c hc =>
    decide_eq_true fun he => hname (he ▸ hc)
  have hspan : (name ++ '>' :: more).span (· ≠ '>') = (name, '>' :: more) := by
    rw [List.span_eq_takeWhile_dropWhile, List.takeWhile_append_of_pos hall,
      List.dropWhile_append_of_pos hall]
    simp
  rw [readName, readUpTo, hspan] at h
  cases name with
  | nil => cases h
  | cons c tail =>
    simp only [if_true, bind, Except.bind] at h
    split at h
    · cases h
      rfl
    · cases h

theorem readOpening_named {name more : List Char} (hname : '>' ∉ name) {r : Opening × List Char}
    (h : readOpening {} ('?' :: 'P' :: '<' :: (name ++ '>' :: more)) = .ok r) :
    r = (.capture (some (String.ofList name)), more) := by
  have hmark : readOpening {} ('?' :: 'P' :: '<' :: (name ++ '>' :: more)) =
      (readName (name ++ '>' :: more) >>= fun x => pure (.capture (some x.1), x.2)) := rfl
  rw [hmark] at h
  obtain ⟨x, hread, h⟩ := bind_eq_ok_iff.mp h
  cases h
  rw [readName_append hname hread]

/-- A named group whose body stands on its own becomes one piece. -/
theorem readBranch_group {name body rest : List Char} {alone : Expression} (hname : '>' ∉ name)
    (hbody : read body = .ok alone) (hrest : '\n' ∉ rest) {r : Piece × Cursor}
    (h : readBranch (n + 1) items
      { rest := '(' :: '?' :: 'P' :: '<' :: (name ++ '>' :: (body ++ ')' :: rest)), groups } =
        .ok r) :
    ∃ p opened, readBranch n (some p :: items) { rest, groups := opened } = .ok r := by
  have hsettle : ∀ cs, settle {} cs = cs := fun _ => rfl
  rw [readBranch, hsettle] at h
  obtain ⟨opening, hopening, h⟩ := bind_eq_ok_iff.mp h
  rw [readOpening_named hname hopening] at h
  dsimp only at h
  split at h
  · cases h
  · obtain ⟨inner, hinner, h⟩ := bind_eq_ok_iff.mp h
    obtain ⟨_, hclosed | hopen, _⟩ := readBranches_alone ⟨rest, hrest⟩ hbody hinner
    · simp only [hclosed, Tail.closed] at h
      exact ⟨_, _, h⟩
    · simp only [hopen] at h
      cases h

end

/-! ## Spliced expressions -/

/-- A branch that goes on with `items`, ends in the assertion and leaves nothing to read. -/
def EndsInStop (items : List (Option Piece)) (r : Piece × Cursor) : Prop :=
  r.2.rest = [] ∧ ∃ more, r.1 = branchOf (some ⟨.look .stop, 0⟩ :: (more ++ items))

theorem EndsInStop.of_cons {item : Option Piece} {items : List (Option Piece)} {r : Piece × Cursor}
    (h : EndsInStop (item :: items) r) : EndsInStop items r := by
  obtain ⟨hrest, more, hpiece⟩ := h
  exact ⟨hrest, more ++ [item], by rw [hpiece, List.append_assoc, List.singleton_append]⟩

/-- A spliced expression is read as one branch, which ends in the assertion that the text ends
there. -/
theorem readBranch_spliced {cs : List Char} (h : Spliced cs) :
    ∀ (n : Nat) (items : List (Option Piece)) (groups : List (Option String)) (r : Piece × Cursor),
      readBranch n items { rest := cs, groups } = .ok r → EndsInStop items r := by
  induction h with
  | stop =>
    intro n items groups r hr
    have hdollar : ['$'].head? ≠ some '?' := by decide
    obtain ⟨n, p, hr⟩ := exists_readBranch_run n items groups false hdollar hr
    obtain _ | _ | n := n
    · cases hr
    · cases hr
    · rw [readBranch_dollar, readBranch_nil _ _ _ rfl] at hr
      cases hr
      exact ⟨rfl, [some p], rfl⟩
  | blanks hrest ih =>
    intro n items groups r hr
    obtain ⟨n, p, hr⟩ := exists_readBranch_run n items groups true hrest.head?_ne hr
    exact (ih _ _ _ _ hr).of_cons
  | plain hc _ _ ih =>
    intro n items groups r hr
    cases n with
    | zero => cases hr
    | succ n =>
      rw [readBranch_plain n items groups hc] at hr
      exact (ih _ _ _ _ hr).of_cons
  | escaped hc _ ih =>
    intro n items groups r hr
    cases n with
    | zero => cases hr
    | succ n =>
      rw [readBranch_escaped n items groups hc] at hr
      exact (ih _ _ _ _ hr).of_cons
  | group hname _ _ hbody hrest ih =>
    intro n items groups r hr
    cases n with
    | zero => cases hr
    | succ n =>
      obtain ⟨p, opened, hr⟩ := readBranch_group n items groups hname hbody hrest.oneLine hr
      exact (ih _ _ _ _ hr).of_cons

theorem branchOf_pattern (more : List (Option Piece)) :
    ∃ ps, (branchOf (some ⟨.look .stop, 0⟩ :: (more ++ [some ⟨.look .start, 0⟩]))).pattern =
      .seq (.look .start) (Pattern.seqs (ps ++ [.look .stop])) := by
  refine ⟨(more.reverse.filterMap id).map (·.pattern), ?_⟩
  simp [branchOf, Pattern.seqs]

/-- **Spliced expressions.** Between the start of the text and its end, a spliced expression stays
one sequence. -/
theorem read_spliced {cs : List Char} (h : Spliced cs) {e : Expression}
    (he : read ('^' :: ("[\\t ]*".toList ++ cs)) = .ok e) :
    ∃ ps, e.pattern = .seq (.look .start) (Pattern.seqs (ps ++ [.look .stop])) := by
  obtain ⟨piece, cur, hread, _, rfl⟩ := exists_of_read he
  generalize 2 * ('^' :: ("[\\t ]*".toList ++ cs)).length + 3 = n at hread
  obtain _ | _ | n := n
  · cases hread
  · cases hread
  · rw [readBranches, readBranch_caret] at hread
    obtain ⟨branch, hbranch, hread⟩ := bind_eq_ok_iff.mp hread
    obtain ⟨m, p, hrest⟩ := exists_readBranch_run n _ [] false h.head?_ne hbranch
    obtain ⟨hend, more, hpiece⟩ := (readBranch_spliced h _ _ _ _ hrest).of_cons
    obtain ⟨ps, hps⟩ := branchOf_pattern more
    refine ⟨ps, ?_⟩
    simp only [hend] at hread
    cases hread
    rw [← hps, ← hpiece]
    rfl

end TemplateBench.Regex
