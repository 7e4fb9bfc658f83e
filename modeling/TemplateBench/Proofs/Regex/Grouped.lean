import TemplateBench.Proofs.Regex.Enclosed
import TemplateBench.Proofs.Result
import TemplateBench.Regex.Matcher

/-!
An expression that stands on its own is read in a group as it is read alone.

* `Pattern.shift`: a pattern whose groups are numbered after others.
* `readBranches_follows`: the end of the group around an expression does not change how it is read,
  and groups in front of it only shift the numbers of its own.
* `read_anchored`: so the group that ties it to the start of the text keeps it as one unit.
-/
namespace TemplateBench.Regex
open Text Decimal

variable {tail : Tail}

/-! ## Groups and repetitions -/

theorem readFlags_follows (cs : List Char) :
    ∀ on seen flags cs', Enclosed tail cs cs' →
      Follows (fun a b => a.1 = b.1 ∧ Alike tail a.2 b.2) (readFlags on seen flags cs)
        (readFlags on seen flags cs') := by
  induction cs with
  | nil => exact fun _ _ _ _ _ => .error
  | cons c rest ih =>
    intro on seen flags cs' h
    obtain ⟨more, rfl, hrest⟩ := h.cons
    rw [readFlags, readFlags]
    split
    · split
      · exact .error
      · exact .ok ⟨rfl, rfl, h⟩
    · split
      · exact .error
      · split
        · exact ih _ _ _ _ hrest
        · split
          · exact ih _ _ _ _ hrest
          · exact .error

theorem readFlagGroup_follows (flags : Flags) {cs cs' : List Char} (h : Enclosed tail cs cs') :
    Follows (Alike tail) (readFlagGroup flags cs) (readFlagGroup flags cs') := by
  refine (readFlags_follows cs true [] flags cs' h).bind ?_
  rintro ⟨changed, seen, rest⟩ ⟨_, _, rest'⟩ ⟨rfl, rfl, hrest⟩
  dsimp only
  cases rest with
  | nil => exact .error
  | cons c rest =>
    obtain ⟨more, rfl, hmore⟩ := hrest.cons
    dsimp only
    split
    · exact .ok ⟨rfl, hmore⟩
    · split
      · exact .error
      · exact .ok ⟨rfl, hmore⟩

theorem readName_follows {cs cs' : List Char} (h : Enclosed tail cs cs') :
    Follows (Alike tail) (readName cs) (readName cs') := by
  refine (readUpTo_follows _ _ h).bind ?_
  rintro ⟨name, rest⟩ ⟨_, rest'⟩ ⟨rfl, hrest⟩
  dsimp only
  split
  · exact .error
  · split
    · exact .ok ⟨rfl, hrest⟩
    · exact .error

theorem dropFront_append {front : List Char} (hfront : ')' ∉ front) :
    ∀ cs, dropFront front (cs ++ tail.closed) = (dropFront front cs).map (· ++ tail.closed) := by
  induction front with
  | nil => exact fun _ => rfl
  | cons p front ih =>
    have hp : p ≠ ')' := fun he => hfront (by simp [he])
    have ih := ih fun hm => hfront (by simp [hm])
    intro cs
    cases cs with
    | nil => simp [Tail.closed, dropFront, hp]
    | cons c cs =>
      rw [List.cons_append, dropFront, dropFront]
      split
      · exact ih cs
      · rfl

theorem nameMark?_append (cs : List Char) :
    nameMark? (cs ++ tail.closed) = (nameMark? cs).map (· ++ tail.closed) := by
  rw [nameMark?, dropFront_append (by decide), dropFront_append (by decide), ← Option.map_or,
    nameMark?]

theorem readOpening_follows (flags : Flags) {cs cs' : List Char} (h : Enclosed tail cs cs') :
    Follows (Alike tail) (readOpening flags cs) (readOpening flags cs') := by
  have hsettled := h.settle flags
  unfold readOpening
  generalize settle flags cs = cs, settle flags cs' = cs' at hsettled
  split
  · rename_i rest
    obtain rfl := hsettled.of_cons
    simp only [nameMark?_append]
    cases nameMark? rest with
    | some named =>
      refine (readName_follows (.append named)).bind ?_
      rintro ⟨name, rest⟩ ⟨_, rest'⟩ ⟨rfl, hrest⟩
      exact .ok ⟨rfl, hrest⟩
    | none => exact readFlagGroup_follows flags (.append rest)
  · rename_i hmark
    split
    · obtain ⟨rest, rfl, _⟩ := hsettled.cons_right (by decide)
      exact absurd rfl (hmark rest)
    · exact .ok ⟨rfl, hsettled⟩

theorem closeBounds_follows (least most : Nat) {cs cs' : List Char} (h : Enclosed tail cs cs') :
    Follows (Alike tail) (closeBounds least most cs) (closeBounds least most cs') := by
  unfold closeBounds
  split
  · obtain ⟨more, rfl, hrest⟩ := h.cons
    simp only
    split
    · exact .ok ⟨rfl, hrest⟩
    · exact .error
  · exact .error

theorem readMost_follows (flags : Flags) (least : Nat) {cs cs' : List Char} (h : Enclosed tail cs cs') :
    Follows (Alike tail) (readMost flags least cs) (readMost flags least cs') := by
  unfold readMost
  split
  · obtain ⟨more, rfl, hrest⟩ := h.cons
    exact .ok ⟨rfl, hrest⟩
  · rename_i hbrace
    split
    · obtain ⟨rest, rfl, _⟩ := h.cons_right (by decide)
      exact absurd rfl (hbrace rest)
    · refine (readCount_follows flags h).bind ?_
      rintro ⟨most, rest⟩ ⟨_, rest'⟩ ⟨rfl, hrest⟩
      cases most with
      | none => exact .error
      | some most => exact closeBounds_follows least most hrest

theorem readBounds_follows (flags : Flags) {cs cs' : List Char} (h : Enclosed tail cs cs') :
    Follows (Alike tail) (readBounds flags cs) (readBounds flags cs') := by
  refine (readCount_follows flags (h.settle flags)).bind ?_
  rintro ⟨least, rest⟩ ⟨_, rest'⟩ ⟨rfl, hrest⟩
  dsimp only
  cases least with
  | none => exact .error
  | some least =>
    dsimp only
    split
    · obtain ⟨more, rfl, hmore⟩ := hrest.cons
      exact readMost_follows flags least (hmore.settle flags)
    · rename_i hcomma
      split
      · obtain ⟨more, rfl, _⟩ := hrest.cons_right (by decide)
        exact absurd rfl (hcomma more)
      · exact closeBounds_follows least least hrest

theorem lazyMark_alike {cs cs' : List Char} (h : Enclosed tail cs cs') :
    Alike tail (lazyMark cs) (lazyMark cs') := by
  unfold lazyMark
  split
  · obtain ⟨more, rfl, hrest⟩ := h.cons
    exact ⟨rfl, hrest⟩
  · rename_i hmark
    split
    · obtain ⟨rest, rfl, _⟩ := h.cons_right (by decide)
      exact absurd rfl (hmark rest)
    · exact ⟨rfl, h⟩

/-! ## Groups in front -/

/-- The pattern with its groups numbered after `k` others. -/
def Pattern.shift (k : Nat) : Pattern → Pattern
  | .empty => .empty
  | .chars s => .chars s
  | .look l => .look l
  | .group index p => .group (index + k) (p.shift k)
  | .seq p q => .seq (p.shift k) (q.shift k)
  | .alt p q => .alt (p.shift k) (q.shift k)
  | .times p least most greedy => .times (p.shift k) least most greedy

@[simp] theorem Pattern.shift_zero (p : Pattern) : p.shift 0 = p := by
  induction p with
  | empty | chars | look => rfl
  | group index p ih => rw [shift, ih, Nat.add_zero]
  | seq p q ihp ihq | alt p q ihp ihq => rw [shift, ihp, ihq]
  | times p least most greedy ih => rw [shift, ih]

theorem Pattern.shift_seqs (k : Nat) (ps : List Pattern) :
    (seqs ps).shift k = seqs (ps.map (shift k)) := by
  induction ps with
  | nil => rfl
  | cons p rest ih =>
    cases rest with
    | nil => rfl
    | cons q rest => exact congrArg (seq (p.shift k)) ih

theorem Pattern.shift_alts (k : Nat) (ps : List Pattern) :
    (alts ps).shift k = alts (ps.map (shift k)) := by
  induction ps with
  | nil => rfl
  | cons p rest ih =>
    cases rest with
    | nil => rfl
    | cons q rest => exact congrArg (alt (p.shift k)) ih

def Piece.shift (k : Nat) (p : Piece) : Piece := ⟨p.pattern.shift k, p.depth⟩

theorem foldl_depth_shift (k : Nat) (pieces : List Piece) (depth : Nat) :
    (pieces.map (Piece.shift k)).foldl (fun d p => max d p.depth) depth =
      pieces.foldl (fun d p => max d p.depth) depth := by
  rw [List.foldl_map]
  rfl

theorem branchOf_shift (k : Nat) (items : List (Option Piece)) :
    branchOf (items.map (Option.map (Piece.shift k))) = (branchOf items).shift k := by
  have hpieces : (items.map (Option.map (Piece.shift k))).reverse.filterMap id =
      (items.reverse.filterMap id).map (Piece.shift k) := by
    rw [← List.map_reverse, List.filterMap_map, List.map_filterMap]
    rfl
  simp only [branchOf, hpieces, foldl_depth_shift, List.length_map, Piece.shift,
    Pattern.shift_seqs, List.map_map]
  rfl

theorem alternativesOf_shift (k : Nat) (branches : List Piece) :
    alternativesOf (branches.map (Piece.shift k)) = (alternativesOf branches).shift k := by
  simp only [alternativesOf, foldl_depth_shift, List.length_map, Piece.shift, Pattern.shift_alts,
    List.map_map]
  rfl

theorem repeatLast_shift (k : Nat) (flags : Flags) (least : Nat) (most : Option Nat) (lazy : Bool)
    (items : List (Option Piece)) :
    repeatLast flags least most lazy (items.map (Option.map (Piece.shift k))) =
      (repeatLast flags least most lazy items).map (List.map (Option.map (Piece.shift k))) := by
  rcases items with _ | ⟨_ | p, items⟩ <;> rfl

/-! ## Expressions -/

/-- Cursors that differ in what encloses their rests and in the groups in front of their own. -/
structure CursorEnclosed (tail : Tail) (outer : List (Option String)) (cur cur' : Cursor) :
    Prop where
  rest : Enclosed tail cur.rest cur'.rest
  flags : cur.flags = cur'.flags
  groups : cur'.groups = cur.groups ++ outer

def PieceAlike (tail : Tail) (outer : List (Option String)) (a b : Piece × Cursor) : Prop :=
  b.1 = a.1.shift outer.length ∧ CursorEnclosed tail outer a.2 b.2

def BranchesFollow (tail : Tail) (outer : List (Option String)) (n m : Nat) : Prop :=
  ∀ branches cur cur', CursorEnclosed tail outer cur cur' →
    Follows (PieceAlike tail outer) (readBranches n branches cur)
      (readBranches m (branches.map (Piece.shift outer.length)) cur')

def BranchFollows (tail : Tail) (outer : List (Option String)) (n m : Nat) : Prop :=
  ∀ items cur cur', CursorEnclosed tail outer cur cur' →
    Follows (PieceAlike tail outer) (readBranch n items cur)
      (readBranch m (items.map (Option.map (Piece.shift outer.length))) cur')

section

variable {outer : List (Option String)} {n m : Nat} {flags : Flags}
  {groups : List (Option String)} {rest rest' : List Char}

theorem BranchFollows.push (h : BranchFollows tail outer n m) (item : Option Piece)
    (items : List (Option Piece)) (hrest : Enclosed tail rest rest') :
    Follows (PieceAlike tail outer) (readBranch n (item :: items) ⟨rest, flags, groups⟩)
      (readBranch m (item.map (Piece.shift outer.length) ::
        items.map (Option.map (Piece.shift outer.length))) ⟨rest', flags, groups ++ outer⟩) :=
  h (item :: items) _ _ ⟨hrest, rfl, rfl⟩

theorem BranchFollows.quantified (h : BranchFollows tail outer n m) (items : List (Option Piece))
    (least : Nat) (most : Option Nat) (hrest : Enclosed tail rest rest') :
    Follows (PieceAlike tail outer)
      (do
        let items ← repeatLast flags least most (lazyMark rest).1 items
        readBranch n items ⟨(lazyMark rest).2, flags, groups⟩)
      (do
        let items ← repeatLast flags least most (lazyMark rest').1
          (items.map (Option.map (Piece.shift outer.length)))
        readBranch m items ⟨(lazyMark rest').2, flags, groups ++ outer⟩) := by
  obtain ⟨hlazy, hmark⟩ := lazyMark_alike hrest
  rw [← hlazy, repeatLast_shift]
  cases repeatLast flags least most (lazyMark rest).1 items with
  | error e => exact .error
  | ok items => exact h items _ _ ⟨hmark, rfl, rfl⟩

/-- A group ends where its parenthesis closes it, in front of the one behind all. -/
theorem BranchFollows.group (h : BranchFollows tail outer n m) (hb : BranchesFollow tail outer n m)
    (items : List (Option Piece)) (inner : Flags) (opened : List (Option String))
    (piece piece' : Piece → Piece)
    (hpiece : ∀ body, piece' (body.shift outer.length) = (piece body).shift outer.length)
    (hrest : Enclosed tail rest rest') :
    Follows (PieceAlike tail outer)
      (do
        let body ← readBranches n [] ⟨rest, inner, opened⟩
        match body.2.rest with
        | ')' :: rest => readBranch n (some (piece body.1) :: items) ⟨rest, flags, body.2.groups⟩
        | _ => fail)
      (do
        let body ← readBranches m [] ⟨rest', inner, opened ++ outer⟩
        match body.2.rest with
        | ')' :: rest => readBranch m (some (piece' body.1) ::
            items.map (Option.map (Piece.shift outer.length))) ⟨rest, flags, body.2.groups⟩
        | _ => fail) := by
  refine (hb [] ⟨rest, inner, opened⟩ ⟨rest', inner, opened ++ outer⟩ ⟨hrest, rfl, rfl⟩).bind ?_
  rintro ⟨body, rest, _, groups⟩ ⟨_, rest', _, _⟩ ⟨rfl, hrest, rfl, rfl⟩
  dsimp only at hrest ⊢
  split
  · obtain ⟨more, rfl, hmore⟩ := hrest.cons
    rw [hpiece]
    exact h.push _ items hmore
  · exact .error

theorem readBranches_step (h : BranchFollows tail outer n m) (hb : BranchesFollow tail outer n m) :
    BranchesFollow tail outer (n + 1) (m + 1) := by
  intro branches cur cur' hcur
  rw [readBranches, readBranches]
  refine (h [] cur cur' hcur).bind ?_
  rintro ⟨branch, rest, flags, groups⟩ ⟨_, rest', _, _⟩ ⟨rfl, hrest, rfl, rfl⟩
  dsimp only at hrest ⊢
  split
  · obtain ⟨more, rfl, hmore⟩ := hrest.cons
    exact hb (branch :: branches) _ _ ⟨hmore, rfl, rfl⟩
  · rename_i hbar
    split
    · obtain ⟨more, rfl, _⟩ := hrest.cons_right (by decide)
      exact absurd rfl (hbar more)
    · refine .ok ⟨?_, hrest, rfl, rfl⟩
      rw [← alternativesOf_shift, List.map_reverse, List.map_cons]

theorem readBranch_step (h : BranchFollows tail outer n m) (hb : BranchesFollow tail outer n m) :
    BranchFollows tail outer (n + 1) (m + 1) := by
  rintro items ⟨rest, flags, groups⟩ ⟨rest', _, _⟩ ⟨hrest, rfl, rfl⟩
  have hsettled := hrest.settle flags
  rw [readBranch, readBranch]
  dsimp only
  generalize settle flags rest = cs, settle flags rest' = cs' at hsettled
  cases cs with
  | nil =>
    rcases hsettled.nil with rfl | rfl
    · exact .ok ⟨branchOf_shift _ _, .append [], rfl, rfl⟩
    · exact .ok ⟨branchOf_shift _ _, hsettled, rfl, rfl⟩
  | cons c rest =>
    obtain rfl := hsettled.of_cons
    have hrest : Enclosed tail rest (rest ++ tail.closed) := .append rest
    dsimp only
    split
    -- The end of the branch: a bar or the parenthesis of the group around it.
    case h_1 | h_2 => exact .ok ⟨branchOf_shift _ _, .append _, rfl, rfl⟩
    -- A group.
    case h_3 =>
      refine (readOpening_follows flags hrest).bind ?_
      rintro ⟨opening, rest⟩ ⟨_, rest'⟩ ⟨rfl, hrest⟩
      cases opening with
      | setFlags changed => exact h.push none items hrest
      | plain inner =>
        exact h.group hb items inner groups (fun body => ⟨body.pattern, body.depth + 1⟩)
          (fun body => ⟨body.pattern, body.depth + 1⟩) (fun body => rfl) hrest
      | capture name =>
        dsimp only
        split
        · exact .error
        · split
          · exact .error_right
          · refine h.group hb items flags (name :: groups)
              (fun body => ⟨.group (groups.length + 1) body.pattern, body.depth + 1⟩)
              (fun body => ⟨.group ((groups ++ outer).length + 1) body.pattern, body.depth + 1⟩)
              (fun body => ?_) hrest
            have hindex : (groups ++ outer).length + 1 = groups.length + 1 + outer.length := by
              rw [List.length_append]
              omega
            simp only [Piece.shift, Pattern.shift, hindex]
    -- A repetition of the piece before it.
    case h_4 | h_5 | h_6 => exact h.quantified items _ _ hrest
    case h_7 =>
      refine (readBounds_follows flags hrest).bind ?_
      rintro ⟨⟨least, most⟩, rest⟩ ⟨_, rest'⟩ ⟨rfl, hrest⟩
      exact h.quantified items least most (hrest.settle flags)
    -- A class.
    case h_8 =>
      refine ((readClass_follows flags _).1 _ _ _ hrest).bind ?_
      rintro ⟨s, rest⟩ ⟨_, rest'⟩ ⟨rfl, hrest⟩
      exact h.push _ items hrest
    -- A dot, then a caret and a dollar sign.
    case h_9 =>
      cases dotSet flags with
      | error e => exact .error
      | ok s => exact h.push _ items hrest
    case h_10 | h_11 => exact h.push _ items hrest
    -- A backslash.
    case h_12 =>
      refine (readEscape_follows flags hrest).bind ?_
      rintro ⟨e, rest⟩ ⟨_, rest'⟩ ⟨rfl, hrest⟩
      cases e with
      | char c numbered =>
        dsimp only
        split
        · exact .error
        · exact h.push _ items hrest
      | set s => exact h.push _ items hrest
      | look l => exact h.push _ items hrest
    -- A character that stands for itself.
    case h_13 => exact h.push _ items hrest

end

/-- An expression is read with the end of a group behind it, and groups in front of it, as it is
read without. -/
theorem readBranches_follows (outer : List (Option String)) (n : Nat) :
    ∀ m, BranchesFollow tail outer n m ∧ BranchFollows tail outer n m := by
  induction n with
  | zero => exact fun _ => ⟨fun _ _ _ _ => .error, fun _ _ _ _ => .error⟩
  | succ n ih =>
    intro m
    cases m with
    | zero => exact ⟨fun _ _ _ _ => .error_right, fun _ _ _ _ => .error_right⟩
    | succ m =>
      obtain ⟨hb, h⟩ := ih m
      exact ⟨readBranches_step h hb, readBranch_step h hb⟩

/-! ## Expressions in a group -/

theorem read_of_compile {source : String} {r : TemplateBench.Regex}
    (h : compile source = .ok r) : read source.toList = .ok ⟨r.pattern, r.groups⟩ := by
  obtain ⟨e, hread, h⟩ := bind_eq_ok_iff.mp h
  cases h
  exact hread

theorem exists_of_read {cs : List Char} {e : Expression} (h : read cs = .ok e) :
    ∃ piece cur, readBranches (2 * cs.length + 3) [] { rest := cs } = .ok (piece, cur) ∧
      cur.rest = [] ∧ e = ⟨piece.pattern, cur.groups.reverse⟩ := by
  obtain ⟨⟨piece, cur⟩, hread, h⟩ := bind_eq_ok_iff.mp h
  dsimp only at h
  split at h
  · cases h
  · rename_i hend
    cases h
    exact ⟨piece, cur, hread, by simp_all, rfl⟩

/-- The body of a group is an expression that stands on its own if it begins with one that does.
Only a comment may keep the group from ending there. -/
theorem readBranches_alone (tail : Tail) {cs : List Char} {e : Expression} (h : read cs = .ok e)
    {n : Nat} {groups : List (Option String)} {body : Piece} {cur : Cursor}
    (hbody : readBranches n [] { rest := cs ++ tail.closed, groups } = .ok (body, cur)) :
    body.pattern = e.pattern.shift groups.length ∧ (cur.rest = tail.closed ∨ cur.rest = []) ∧
      cur.groups = e.groups.reverse ++ groups := by
  obtain ⟨piece, last, hread, hend, rfl⟩ := exists_of_read h
  have hcur : CursorEnclosed tail groups { rest := cs } { rest := cs ++ tail.closed, groups } :=
    ⟨.append cs, rfl, rfl⟩
  obtain ⟨hpiece, hlast⟩ :=
    (readBranches_follows groups (2 * cs.length + 3) n).1 [] _ _ hcur _ _ hread hbody
  have hrest : Enclosed tail [] cur.rest := hend ▸ hlast.rest
  refine ⟨congrArg Piece.pattern hpiece, hrest.nil, ?_⟩
  rw [List.reverse_reverse]
  exact hlast.groups

/-! ## The group that ties an expression to the start -/

theorem readBranch_caret (n : Nat) (items : List (Option Piece)) (cs : List Char) :
    readBranch (n + 1) items { rest := '^' :: cs } =
      readBranch n (some ⟨.look .start, 0⟩ :: items) { rest := cs } := by
  rw [readBranch]
  rfl

theorem readBranch_plainGroup (n : Nat) (items : List (Option Piece)) (cs : List Char) :
    readBranch (n + 1) items { rest := '(' :: '?' :: ':' :: cs } =
      (do
        let body ← readBranches n [] { rest := cs }
        match body.2.rest with
        | ')' :: rest =>
          readBranch n (some ⟨body.1.pattern, body.1.depth + 1⟩ :: items)
            { body.2 with rest, flags := {} }
        | _ => fail) := by
  rw [readBranch]
  rfl

theorem readBranch_nil (n : Nat) (items : List (Option Piece)) (cur : Cursor)
    (h : cur.rest = []) :
    readBranch (n + 1) items cur = .ok (branchOf items, { cur with rest := [] }) := by
  rw [readBranch, h, settle_nil]

/-- **Anchoring.** An expression that stands on its own is read in the group that ties it to the
start of the text as it is read alone, and so becomes one unit behind the assertion. -/
theorem read_anchored {cs : List Char} {e e' : Expression} (h : read cs = .ok e)
    (h' : read ('^' :: '(' :: '?' :: ':' :: (cs ++ [')'])) = .ok e') :
    e' = ⟨.seq (.look .start) e.pattern, e.groups⟩ := by
  obtain ⟨whole, last, hread, _, rfl⟩ := exists_of_read h'
  have hfuel : 2 * ('^' :: '(' :: '?' :: ':' :: (cs ++ [')'])).length + 3 =
      2 * cs.length + 9 + 1 + 1 + 1 + 1 := by
    simp only [List.length_cons, List.length_append, List.length_nil]
    omega
  rw [hfuel, readBranches, readBranch_caret, readBranch_plainGroup] at hread
  obtain ⟨branch, hbranch, hread⟩ := bind_eq_ok_iff.mp hread
  obtain ⟨⟨body, cur⟩, hinner, hbranch⟩ := bind_eq_ok_iff.mp hbranch
  obtain ⟨hbody, hrest, hgroups⟩ := readBranches_alone {} h hinner
  rcases hrest with hclosed | hopen
  · simp only [hclosed, Tail.closed, readBranch_nil] at hbranch
    cases hbranch
    cases hread
    simp [alternativesOf, branchOf, Pattern.alts, Pattern.seqs, hgroups, hbody]
  · simp only [hopen] at hbranch
    cases hbranch

end TemplateBench.Regex
