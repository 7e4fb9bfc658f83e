import TemplateBench.Proofs.Regex.Grouped
import TemplateBench.Proofs.Text.Searches

/-!
Where the named groups of an expression come from.

* `Leaves`: a reader leaves an end of what it is given. `readEscape_leaves`, `readClass_leaves` and
  the like say so of the readers of all parts.
* `Header`: the beginning of a group with a name, as it is written.
* `read_headers`: each named group of an expression has such a beginning in its text.
-/
namespace TemplateBench.Regex
open Text

/-! ## What readers leave -/

/-- A reader leaves an end of what it is given. -/
def Leaves {α : Type} (cs : List Char) (x : Reading (α × List Char)) : Prop :=
  ∀ a rest, x = .ok (a, rest) → rest <:+ cs

section Leaves

variable {α β : Type} {cs cs' : List Char}

theorem Leaves.error {e : Malformed} : Leaves (α := α) cs (.error e) := nofun

theorem Leaves.ok {a : α} {rest : List Char} (h : rest <:+ cs) : Leaves cs (.ok (a, rest)) := by
  intro a' rest' he
  cases he
  exact h

theorem Leaves.bind {x : Reading (α × List Char)} {f : α × List Char → Reading (β × List Char)}
    (h : Leaves cs x) (hf : ∀ a rest, Leaves rest (f (a, rest))) : Leaves cs (x >>= f) := by
  intro b rest' he
  obtain ⟨⟨a, rest⟩, hx, he⟩ := bind_eq_ok_iff.mp he
  exact (hf a rest b rest' he).trans (h a rest hx)

/-- A step that reads nothing. -/
theorem Leaves.pass {x : Reading α} {f : α → Reading (β × List Char)} (hf : ∀ a, Leaves cs (f a)) :
    Leaves cs (x >>= f) := by
  intro b rest he
  obtain ⟨a, _, he⟩ := bind_eq_ok_iff.mp he
  exact hf a b rest he

theorem Leaves.mono {x : Reading (α × List Char)} (h : Leaves cs x) (hcs : cs <:+ cs') :
    Leaves cs' x := fun a rest he => (h a rest he).trans hcs

end Leaves

/-! ## Blanks and numbers -/

theorem skipComment_suffix (cs : List Char) : skipComment cs <:+ cs := by
  fun_induction skipComment cs with
  | case1 => exact List.suffix_refl _
  | case2 rest => exact List.suffix_cons _ _
  | case3 c rest _ ih => exact ih.trans (List.suffix_cons _ _)

theorem skipSpace_suffix (n : Nat) (cs : List Char) : skipSpace n cs <:+ cs := by
  fun_induction skipSpace n cs with
  | case1 => exact List.suffix_refl _
  | case2 => exact List.suffix_refl _
  | case3 n c rest _ ih => exact ih.trans (List.suffix_cons _ _)
  | case4 n rest _ ih => exact ih.trans ((skipComment_suffix rest).trans (List.suffix_cons _ _))
  | case5 => exact List.suffix_refl _

theorem settle_suffix (flags : Flags) (cs : List Char) : settle flags cs <:+ cs := by
  unfold settle
  split
  · exact skipSpace_suffix _ _
  · exact List.suffix_refl _

/-- In front of what counts next there is white space only, for no comment ends within a line. -/
theorem settle_eq_cons {flags : Flags} {cs rest : List Char} {c : Char} (hline : '\n' ∉ cs)
    (h : settle flags cs = c :: rest) :
    ∃ gap, (∀ d ∈ gap, isBlank d = true) ∧ cs = gap ++ c :: rest := by
  unfold settle at h
  split at h
  · generalize cs.length = n at h
    fun_induction skipSpace n cs with
    | case1 cs => exact ⟨[], by simp, h⟩
    | case2 => cases h
    | case3 n d more hd ih =>
      obtain ⟨gap, hgap, rfl⟩ := ih (fun hm => hline (by simp [hm])) h
      exact ⟨d :: gap, List.forall_mem_cons.mpr ⟨hd, hgap⟩, rfl⟩
    | case4 n more _ ih =>
      rw [skipComment_of_oneLine fun hm => hline (by simp [hm]), skipSpace_nil] at h
      cases h
    | case5 n d more => exact ⟨[], by simp, h⟩
  · exact ⟨[], by simp, h⟩

theorem digitsOf_suffix (flags : Flags) (n : Nat) :
    ∀ cs, (digitsOf flags n cs).2 <:+ cs := by
  induction n with
  | zero => exact fun cs => by cases cs <;> exact List.suffix_refl _
  | succ n ih =>
    intro cs
    cases cs with
    | nil => exact List.suffix_refl _
    | cons c rest =>
      rw [digitsOf]
      split
      · exact (ih _).trans ((settle_suffix flags rest).trans (List.suffix_cons _ _))
      · exact List.suffix_refl _

theorem readCount_leaves (flags : Flags) (cs : List Char) : Leaves cs (readCount flags cs) := by
  have hrest : settle flags ((digitsOf flags cs.length (cs.dropWhile isBlank)).2.dropWhile isBlank)
      <:+ cs :=
    (settle_suffix _ _).trans ((List.dropWhile_suffix _).trans
      ((digitsOf_suffix _ _ _).trans (List.dropWhile_suffix _)))
  unfold readCount
  dsimp only
  split
  · exact .ok hrest
  · split
    · exact .ok hrest
    · exact .error

theorem takeHex_leaves (flags : Flags) (n : Nat) : ∀ cs, Leaves cs (takeHex flags n cs) := by
  induction n with
  | zero => exact fun cs => .ok (List.suffix_refl _)
  | succ n ih =>
    intro cs
    cases cs with
    | nil => exact .error
    | cons c rest =>
      refine (Leaves.bind (ih _) fun ds rest => ?_).mono
        ((settle_suffix flags rest).trans (List.suffix_cons _ _))
      exact .ok (List.suffix_refl _)

theorem readUpTo_leaves (p : Char → Bool) (stop : Char) (cs : List Char) :
    Leaves cs (readUpTo p stop cs) := by
  unfold readUpTo
  rw [List.span_eq_takeWhile_dropWhile]
  split
  · rename_i front c rest hspan
    obtain ⟨-, hrest⟩ := Prod.mk.inj hspan
    split
    · refine .ok ((List.suffix_cons c rest).trans ?_)
      rw [← hrest]
      exact List.dropWhile_suffix _
    · exact .error
  · exact .error

theorem readHexDigits_leaves (flags : Flags) (width : Nat) (cs : List Char) :
    Leaves cs (readHexDigits flags width cs) := by
  unfold readHexDigits
  split
  · refine (Leaves.bind (readUpTo_leaves _ _ _) fun ds rest => ?_).mono (List.suffix_cons _ _)
    exact .ok (settle_suffix flags rest)
  · exact takeHex_leaves flags width cs

theorem readHex_leaves (flags : Flags) (width : Nat) (cs : List Char) :
    Leaves cs (readHex flags width cs) := by
  refine (readHexDigits_leaves flags width cs).bind fun ds rest => ?_
  dsimp only
  split
  · exact .error
  · split
    · exact .ok (List.suffix_refl _)
    · exact .error

/-! ## Escapes -/

theorem readPropertyName_leaves (flags : Flags) (cs : List Char) :
    Leaves cs (readPropertyName flags cs) := by
  cases cs with
  | nil => exact .error
  | cons c rest =>
    unfold readPropertyName
    dsimp only
    split
    · exact (readUpTo_leaves _ _ _).mono (List.suffix_cons _ _)
    · exact .error
    · exact .ok ((settle_suffix flags rest).trans (List.suffix_cons _ _))

theorem readProperty_leaves (flags : Flags) (negated : Bool) (cs : List Char) :
    Leaves cs (readProperty flags negated cs) := by
  refine (readPropertyName_leaves flags cs).bind fun name rest => ?_
  dsimp only
  split
  · exact .error
  · split
    · exact .ok (List.suffix_refl _)
    · exact .error

theorem readBoundaryName_leaves (flags : Flags) (cs : List Char) :
    Leaves cs (readBoundaryName flags cs) := by
  refine (readUpTo_leaves _ _ cs).bind fun name rest => ?_
  dsimp only
  split
  · exact .ok (List.suffix_refl _)
  · exact .error

theorem readBoundary_leaves (flags : Flags) (cs : List Char) :
    Leaves cs (readBoundary flags cs) := by
  unfold readBoundary
  split
  · rename_i body
    split
    · exact .error
    · rename_i c more hsettle
      split
      · have hmore : c :: more <:+ '\x7b' :: body :=
          (hsettle ▸ settle_suffix flags body).trans (List.suffix_cons _ _)
        refine (Leaves.bind (readBoundaryName_leaves flags _) fun l rest => ?_).mono hmore
        exact .ok (List.suffix_refl _)
      · exact .ok (List.suffix_refl _)
  · exact .ok (List.suffix_refl _)

theorem readEscape_leaves (flags : Flags) (cs : List Char) : Leaves cs (readEscape flags cs) := by
  cases cs with
  | nil => exact .error
  | cons c rest =>
    have hrest : rest <:+ c :: rest := List.suffix_cons c rest
    have hsettle : settle flags rest <:+ c :: rest := (settle_suffix flags rest).trans hrest
    unfold readEscape
    dsimp only
    split
    · exact .pass fun _ => .ok hrest
    · split
      case h_1 | h_2 | h_3 =>
        refine (Leaves.bind (readHex_leaves flags _ _) fun c rest => ?_).mono hsettle
        exact .ok (List.suffix_refl _)
      case h_4 | h_5 => exact (readProperty_leaves flags _ _).mono hsettle
      case h_14 => exact (readBoundary_leaves flags rest).mono hrest
      case h_18 =>
        split
        · exact .ok hrest
        · exact .error
      all_goals exact .ok hrest

/-! ## Classes -/

theorem asciiName?_suffix {cs name rest : List Char} (h : asciiName? cs = some (name, rest)) :
    rest <:+ cs := by
  unfold asciiName? at h
  rw [List.span_eq_takeWhile_dropWhile] at h
  split at h
  · rename_i hspan
    cases h
    obtain ⟨-, hrest⟩ := Prod.mk.inj hspan
    refine List.IsSuffix.trans ?_ (hrest ▸ List.dropWhile_suffix _)
    exact (List.suffix_cons _ _).trans (List.suffix_cons _ _)
  · cases h

theorem namedClass?_suffix {flags : Flags} {negated : Bool} {cs rest : List Char}
    {s : Reading CharSet} (h : namedClass? flags negated cs = some (s, rest)) : rest <:+ cs := by
  obtain ⟨⟨name, more⟩, hname, h⟩ := Option.bind_eq_some_iff.mp h
  obtain ⟨_, _, he⟩ := Option.map_eq_some_iff.mp h
  cases he
  exact asciiName?_suffix hname

theorem asciiClass?_suffix {flags : Flags} {cs rest : List Char} {s : Reading CharSet}
    (h : asciiClass? flags cs = some (s, rest)) : rest <:+ cs := by
  unfold asciiClass? at h
  split at h
  · exact (namedClass?_suffix h).trans ((List.suffix_cons _ _).trans (List.suffix_cons _ _))
  · exact (namedClass?_suffix h).trans (List.suffix_cons _ _)
  · cases h

theorem readItem_leaves (flags : Flags) (cs : List Char) : Leaves cs (readItem flags cs) := by
  cases cs with
  | nil => exact .error
  | cons c rest =>
    unfold readItem
    dsimp only
    split
    · refine (Leaves.bind (readEscape_leaves flags rest) fun e rest => ?_).mono (List.suffix_cons _ _)
      cases e with
      | char c numbered =>
        dsimp only
        split
        · exact .error
        · exact .ok (List.suffix_refl _)
      | set s => exact .ok (List.suffix_refl _)
      | look l => exact .error
    · split
      · exact .error
      · exact .ok (List.suffix_cons _ _)

theorem readRangeEnd_leaves (flags : Flags) (first : SetItem) (cs : List Char) :
    Leaves cs (readRangeEnd flags first cs) := by
  unfold readRangeEnd
  split
  · rename_i more
    split
    · exact .error
    · rename_i c rest hsettle
      split
      · exact .ok (List.suffix_refl _)
      · have hrest : c :: rest <:+ '-' :: more :=
          (hsettle ▸ settle_suffix flags more).trans (List.suffix_cons _ _)
        refine (Leaves.bind (readItem_leaves flags _) fun last rest => ?_).mono hrest
        exact .pass fun _ => .ok (List.suffix_refl _)
  · exact .ok (List.suffix_refl _)

theorem readRange_leaves (flags : Flags) (cs : List Char) : Leaves cs (readRange flags cs) := by
  refine (readItem_leaves flags cs).bind fun first rest => ?_
  exact (readRangeEnd_leaves flags first _).mono (settle_suffix flags rest)

theorem leadingDashes_suffix (flags : Flags) (n : Nat) :
    ∀ cs, (leadingDashes flags n cs).2 <:+ cs := by
  induction n with
  | zero => exact fun cs => List.suffix_refl _
  | succ n ih =>
    intro cs
    unfold leadingDashes
    split
    · rename_i hn
      cases hn
      exact (ih _).trans ((settle_suffix flags _).trans (List.suffix_cons _ _))
    · exact List.suffix_refl _

theorem leadingCaret_suffix (flags : Flags) (cs : List Char) :
    (leadingCaret flags cs).2 <:+ cs := by
  unfold leadingCaret
  split
  · exact (settle_suffix flags _).trans (List.suffix_cons _ _)
  · exact List.suffix_refl _

theorem leadingItems_suffix (flags : Flags) (cs : List Char) :
    (leadingItems flags cs).2 <:+ cs := by
  have hdashes := leadingDashes_suffix flags cs.length cs
  unfold leadingItems
  split
  · rename_i hd
    rw [hd] at hdashes
    exact (settle_suffix flags _).trans ((List.suffix_cons _ _).trans hdashes)
  · rename_i hd
    rwa [hd] at hdashes

theorem openClass_suffix (flags : Flags) (cs : List Char) : (openClass flags cs).2.2 <:+ cs :=
  (leadingItems_suffix flags _).trans
    ((leadingCaret_suffix flags _).trans (settle_suffix flags cs))

theorem setOperator?_suffix {cs rest : List Char} {op : SetOperator}
    (h : setOperator? cs = some (op, rest)) : rest <:+ cs := by
  unfold setOperator? at h
  split at h
  · split at h
    · have htwo : ∀ c d : Char, ∀ more : List Char, more <:+ c :: d :: more := fun c d more =>
        (List.suffix_cons d more).trans (List.suffix_cons c _)
      split at h <;> cases h <;> exact htwo _ _ _
    · cases h
  · cases h

theorem readClass_leaves (flags : Flags) (n : Nat) :
    (∀ cs, Leaves cs (readClass flags n cs)) ∧
    ∀ negated pending items cs, Leaves cs (readSetItems flags n negated pending items cs) := by
  induction n with
  | zero => exact ⟨fun _ => .error, fun _ _ _ _ => .error⟩
  | succ n ih =>
    obtain ⟨hclass, hitems⟩ := ih
    refine ⟨fun cs => ?_, fun negated pending items cs => ?_⟩
    · rw [readClass]
      exact (hitems _ _ _ _).mono (openClass_suffix flags cs)
    · rw [readSetItems]
      split
      · exact .error
      · rename_i c rest hsettle
        have hcs : c :: rest <:+ cs := hsettle ▸ settle_suffix flags cs
        have hrest : rest <:+ cs := (List.suffix_cons c rest).trans hcs
        split
        · split
          · rename_i hascii
            exact .pass fun _ => (hitems _ _ _ _).mono ((asciiClass?_suffix hascii).trans hrest)
          · exact (Leaves.bind (hclass rest) fun inner rest => hitems _ _ _ _).mono hrest
        · exact .pass fun _ => .ok hrest
        · split
          · rename_i hop
            exact (hitems _ _ _ _).mono ((setOperator?_suffix hop).trans hcs)
          · exact (Leaves.bind (readRange_leaves flags _) fun s rest => hitems _ _ _ _).mono hcs

/-! ## Groups and repetitions -/

theorem readFlags_suffix (cs : List Char) :
    ∀ {on seen flags r}, readFlags on seen flags cs = .ok r → r.2.2 <:+ cs := by
  induction cs with
  | nil =>
    intro on seen flags r h
    cases h
  | cons c rest ih =>
    intro on seen flags r h
    rw [readFlags] at h
    split at h
    · split at h
      · cases h
      · cases h
        exact List.suffix_refl _
    · split at h
      · cases h
      · split at h
        · exact (ih h).trans (List.suffix_cons _ _)
        · split at h
          · exact (ih h).trans (List.suffix_cons _ _)
          · cases h

theorem readFlagGroup_leaves (flags : Flags) (cs : List Char) :
    Leaves cs (readFlagGroup flags cs) := by
  intro opening rest h
  obtain ⟨⟨changed, seen, more⟩, hflags, h⟩ := bind_eq_ok_iff.mp h
  have hmore := readFlags_suffix cs hflags
  dsimp only at h hmore
  split at h
  · cases h
  · have hrest := (List.suffix_cons _ _).trans hmore
    split at h
    · cases h
      exact hrest
    · split at h
      · cases h
      · cases h
        exact hrest

theorem readName_leaves (cs : List Char) : Leaves cs (readName cs) := by
  refine (readUpTo_leaves _ _ cs).bind fun name rest => ?_
  dsimp only
  split
  · exact .error
  · split
    · exact .ok (List.suffix_refl _)
    · exact .error

theorem nameMark?_eq_some {cs rest : List Char} (h : nameMark? cs = some rest) :
    ∃ mark, (mark = ['P', '<'] ∨ mark = ['<']) ∧ cs = mark ++ rest := by
  rcases Option.or_eq_some_iff.mp h with h | ⟨_, h⟩
  · exact ⟨_, .inl rfl, dropFront_eq_some_iff.mp h⟩
  · exact ⟨_, .inr rfl, dropFront_eq_some_iff.mp h⟩

theorem readOpening_leaves (flags : Flags) (cs : List Char) :
    Leaves cs (readOpening flags cs) := by
  have hsettle := settle_suffix flags cs
  unfold readOpening
  split
  · rename_i rest heq
    rw [heq] at hsettle
    have hrest := (List.suffix_cons _ _).trans hsettle
    split
    · rename_i more hmark
      obtain ⟨mark, _, rfl⟩ := nameMark?_eq_some hmark
      refine (Leaves.bind (readName_leaves more) fun name rest => ?_).mono
        ((List.suffix_append mark more).trans hrest)
      exact .ok (List.suffix_refl _)
    · exact (readFlagGroup_leaves flags rest).mono hrest
  · exact .ok hsettle

theorem closeBounds_leaves (least most : Nat) (cs : List Char) :
    Leaves cs (closeBounds least most cs) := by
  unfold closeBounds
  split
  · split
    · exact .ok (List.suffix_cons _ _)
    · exact .error
  · exact .error

theorem readMost_leaves (flags : Flags) (least : Nat) (cs : List Char) :
    Leaves cs (readMost flags least cs) := by
  unfold readMost
  split
  · exact .ok (List.suffix_cons _ _)
  · refine (readCount_leaves flags cs).bind fun most rest => ?_
    cases most with
    | none => exact .error
    | some most => exact closeBounds_leaves least most rest

theorem readBounds_leaves (flags : Flags) (cs : List Char) : Leaves cs (readBounds flags cs) := by
  refine (Leaves.bind (readCount_leaves flags _) fun least rest => ?_).mono (settle_suffix flags cs)
  cases least with
  | none => exact .error
  | some least =>
    dsimp only
    split
    · exact (readMost_leaves flags least _).mono
        ((settle_suffix flags _).trans (List.suffix_cons _ _))
    · exact closeBounds_leaves least least rest

theorem lazyMark_suffix (cs : List Char) : (lazyMark cs).2 <:+ cs := by
  unfold lazyMark
  split
  · exact List.suffix_cons _ _
  · exact List.suffix_refl _

/-! ## Headers -/

/-- The beginning of a group with a name, as it is written. -/
inductive Header (name : String) : List Char → Prop
  | intro {gap mark : List Char} : (∀ c ∈ gap, isBlank c = true) →
      mark = ['P', '<'] ∨ mark = ['<'] → (∀ c ∈ name.toList, isNameChar c = true) →
      Header name ('(' :: (gap ++ '?' :: (mark ++ (name.toList ++ ['>']))))

/-- A text has the beginning of a group with this name in it. -/
def HasHeader (text : List Char) (name : String) : Prop :=
  ∃ header, Header name header ∧ header <:+: text

theorem HasHeader.mono {text text' : List Char} {name : String} (h : HasHeader text name)
    (ht : text <:+: text') : HasHeader text' name := by
  obtain ⟨header, hheader, hinfix⟩ := h
  exact ⟨header, hheader, hinfix.trans ht⟩

theorem isNameChar_of_isNameStart {c : Char} (h : isNameStart c = true) : isNameChar c = true := by
  simp only [isNameStart, Bool.or_eq_true] at h
  rcases h with h | h
  · simp [isNameChar, h]
  · have hletter : isAlphanumeric c = true := by
      unfold isAlphabetic at h
      unfold isAlphanumeric
      split
      · rename_i hascii
        rw [if_pos hascii] at h
        simp [isAsciiAlphanumeric, h]
      · rename_i hascii
        rw [if_neg hascii] at h
        simp [h]
    simp [isNameChar, hletter]

theorem readName_steps {cs rest : List Char} {name : String} (h : readName cs = .ok (name, rest)) :
    (∀ c ∈ name.toList, isNameChar c = true) ∧ cs = name.toList ++ '>' :: rest := by
  obtain ⟨⟨front, more⟩, hread, h⟩ := bind_eq_ok_iff.mp h
  have hcs : cs = front ++ '>' :: more := by
    unfold readUpTo at hread
    rw [List.span_eq_takeWhile_dropWhile] at hread
    split at hread
    · rename_i hspan
      obtain ⟨hfront, hmore⟩ := Prod.mk.inj hspan
      split at hread
      · rename_i hc
        cases hread
        rw [← hc, ← hmore, ← hfront, List.takeWhile_append_dropWhile]
      · cases hread
    · cases hread
  dsimp only at h
  split at h
  · cases h
  · rename_i c tail
    split at h
    · rename_i hname
      cases h
      rw [Bool.and_eq_true, List.all_eq_true] at hname
      rw [String.toList_ofList]
      exact ⟨List.forall_mem_cons.mpr ⟨isNameChar_of_isNameStart hname.1, hname.2⟩, hcs⟩
    · cases h

theorem readOpening_capture {flags : Flags} {cs rest : List Char} {name : String}
    (hline : '\n' ∉ cs) (h : readOpening flags cs = .ok (.capture (some name), rest)) :
    ∃ header, Header name header ∧ '(' :: cs = header ++ rest := by
  unfold readOpening at h
  split at h
  · rename_i more hsettle
    obtain ⟨gap, hgap, rfl⟩ := settle_eq_cons hline hsettle
    split at h
    · rename_i after hmark
      obtain ⟨mark, hwritten, rfl⟩ := nameMark?_eq_some hmark
      obtain ⟨⟨written, last⟩, hname, h⟩ := bind_eq_ok_iff.mp h
      cases h
      obtain ⟨hchars, rfl⟩ := readName_steps hname
      exact ⟨_, .intro hgap hwritten hchars, by simp⟩
    · obtain ⟨⟨changed, seen, last⟩, _, h⟩ := bind_eq_ok_iff.mp h
      dsimp only at h
      split at h
      · cases h
      · split at h
        · cases h
        · split at h <;> cases h
  · cases h

/-- What is left to read is an end of what there was, and each new group has been written there. -/
structure Passes (cur last : Cursor) : Prop where
  rest : last.rest <:+ cur.rest
  groups : ∀ name, some name ∈ last.groups → some name ∈ cur.groups ∨ HasHeader cur.rest name

theorem Passes.of_suffix {cur last : Cursor} (h : last.rest <:+ cur.rest)
    (hg : last.groups = cur.groups) : Passes cur last := ⟨h, fun _ hm => .inl (hg ▸ hm)⟩

theorem Passes.trans {cur done last : Cursor} (h : Passes cur done) (h' : Passes done last) :
    Passes cur last := by
  refine ⟨h'.rest.trans h.rest, fun name hm => ?_⟩
  rcases h'.groups name hm with hm | hdeclared
  · exact h.groups name hm
  · exact .inr (hdeclared.mono h.rest.isInfix)

theorem Passes.oneLine {cur last : Cursor} (h : Passes cur last) (hline : '\n' ∉ cur.rest) :
    '\n' ∉ last.rest := fun hm => hline (h.rest.subset hm)

def BranchesPass (n : Nat) : Prop :=
  ∀ {branches cur piece last}, '\n' ∉ cur.rest →
    readBranches n branches cur = .ok (piece, last) → Passes cur last

def BranchPasses (n : Nat) : Prop :=
  ∀ {items cur piece last}, '\n' ∉ cur.rest →
    readBranch n items cur = .ok (piece, last) → Passes cur last

theorem readBranches_passes_step {n : Nat} (h : BranchPasses n) (hb : BranchesPass n) :
    BranchesPass (n + 1) := by
  intro branches cur piece last hline hread
  rw [readBranches] at hread
  obtain ⟨⟨branch, done⟩, hbranch, hread⟩ := bind_eq_ok_iff.mp hread
  have hdone := h hline hbranch
  dsimp only at hread
  split at hread
  · rename_i rest hrest
    have hnext : Passes done { done with rest } :=
      .of_suffix (hrest ▸ List.suffix_cons _ _) rfl
    have hcur := hdone.trans hnext
    exact hcur.trans (hb (hcur.oneLine hline) hread)
  · cases hread
    exact hdone

/-- Behind the end of a group its flags are forgotten, and what it has opened is not. -/
theorem BranchPasses.closed {n : Nat} (h : BranchPasses n) {items : List (Option Piece)}
    {cur done : Cursor} {flags : Flags} {piece : Piece} {last : Cursor} {rest : List Char}
    (hcur : Passes cur done) (hline : '\n' ∉ cur.rest) (hrest : done.rest = ')' :: rest)
    (hread : readBranch n items ⟨rest, flags, done.groups⟩ = .ok (piece, last)) :
    Passes cur last := by
  have hnext : Passes done ⟨rest, flags, done.groups⟩ := .of_suffix (hrest ▸ List.suffix_cons _ _) rfl
  have hcur := hcur.trans hnext
  exact hcur.trans (h (hcur.oneLine hline) hread)

theorem BranchPasses.goesOn {n : Nat} (h : BranchPasses n) {items : List (Option Piece)}
    {flags flags' : Flags} {groups : List (Option String)} {cs rest : List Char} {piece : Piece}
    {last : Cursor} (hline : '\n' ∉ cs) (hrest : rest <:+ cs)
    (hread : readBranch n items ⟨rest, flags', groups⟩ = .ok (piece, last)) :
    Passes ⟨cs, flags, groups⟩ last := by
  have hcur : Passes ⟨cs, flags, groups⟩ ⟨rest, flags', groups⟩ := .of_suffix hrest rfl
  exact hcur.trans (h (hcur.oneLine hline) hread)

theorem BranchPasses.quantified {n : Nat} (h : BranchPasses n) {items : List (Option Piece)}
    {flags : Flags} {groups : List (Option String)} {cs rest : List Char} {piece : Piece}
    {last : Cursor} {least : Nat} {most : Option Nat} (hline : '\n' ∉ cs) (hrest : rest <:+ cs)
    (hread : (do
      let items ← repeatLast flags least most (lazyMark rest).1 items
      readBranch n items ⟨(lazyMark rest).2, flags, groups⟩) = .ok (piece, last)) :
    Passes ⟨cs, flags, groups⟩ last := by
  obtain ⟨items', _, hread⟩ := bind_eq_ok_iff.mp hread
  exact h.goesOn hline ((lazyMark_suffix rest).trans hrest) hread

theorem readBranch_passes_step {n : Nat} (h : BranchPasses n) (hb : BranchesPass n) :
    BranchPasses (n + 1) := by
  rintro items ⟨cs, flags, groups⟩ piece last hline hread
  rw [readBranch] at hread
  dsimp only at hread hline
  split at hread
  · cases hread
    exact .of_suffix List.nil_suffix rfl
  · rename_i c rest hsettled
    have hcs : c :: rest <:+ cs := hsettled ▸ settle_suffix flags cs
    have hrest : rest <:+ cs := (List.suffix_cons c rest).trans hcs
    have hrestLine : '\n' ∉ rest := fun hm => hline (hrest.subset hm)
    split at hread
    case h_1 | h_2 =>
      cases hread
      exact .of_suffix hcs rfl
    case h_3 =>
      obtain ⟨⟨opening, more⟩, hopening, hread⟩ := bind_eq_ok_iff.mp hread
      have hmore : more <:+ cs := (readOpening_leaves flags rest _ _ hopening).trans hrest
      cases opening with
      | setFlags changed => exact h.goesOn hline hmore hread
      | plain inner =>
        obtain ⟨⟨body, done⟩, hbody, hread⟩ := bind_eq_ok_iff.mp hread
        have hstart : Passes ⟨cs, flags, groups⟩ ⟨more, inner, groups⟩ := .of_suffix hmore rfl
        have hdone := hstart.trans (hb (hstart.oneLine hline) hbody)
        dsimp only at hread
        split at hread
        · rename_i hclosed
          exact h.closed hdone hline hclosed hread
        · cases hread
      | capture name =>
        dsimp only at hread
        split at hread
        · cases hread
        · obtain ⟨⟨body, done⟩, hbody, hread⟩ := bind_eq_ok_iff.mp hread
          have hstart : Passes ⟨cs, flags, groups⟩ ⟨more, flags, name :: groups⟩ := by
            refine ⟨hmore, fun n hn => ?_⟩
            rcases List.mem_cons.mp hn with rfl | hn
            · obtain ⟨header, hheader, htext⟩ := readOpening_capture hrestLine hopening
              exact .inr ⟨header, hheader, (htext ▸ List.prefix_append header more).isInfix.trans
                hcs.isInfix⟩
            · exact .inl hn
          have hdone := hstart.trans (hb (hstart.oneLine hline) hbody)
          dsimp only at hread
          split at hread
          · rename_i hclosed
            exact h.closed hdone hline hclosed hread
          · cases hread
    case h_4 | h_5 | h_6 => exact h.quantified hline hrest hread
    case h_7 =>
      obtain ⟨⟨⟨least, most⟩, more⟩, hbounds, hread⟩ := bind_eq_ok_iff.mp hread
      have hmore : more <:+ cs := (readBounds_leaves flags rest _ _ hbounds).trans hrest
      exact h.quantified hline ((settle_suffix flags more).trans hmore) hread
    case h_8 =>
      obtain ⟨⟨s, more⟩, hclass, hread⟩ := bind_eq_ok_iff.mp hread
      exact h.goesOn hline (((readClass_leaves flags _).1 rest _ _ hclass).trans hrest) hread
    case h_9 =>
      obtain ⟨s, _, hread⟩ := bind_eq_ok_iff.mp hread
      exact h.goesOn hline hrest hread
    case h_10 | h_11 => exact h.goesOn hline hrest hread
    case h_12 =>
      obtain ⟨⟨e, more⟩, hescape, hread⟩ := bind_eq_ok_iff.mp hread
      have hmore : more <:+ cs := (readEscape_leaves flags rest _ _ hescape).trans hrest
      cases e with
      | char c numbered =>
        dsimp only at hread
        split at hread
        · cases hread
        · exact h.goesOn hline hmore hread
      | set s => exact h.goesOn hline hmore hread
      | look l => exact h.goesOn hline hmore hread
    case h_13 => exact h.goesOn hline hrest hread

theorem readBranches_passes (n : Nat) : BranchesPass n ∧ BranchPasses n := by
  induction n with
  | zero =>
    refine ⟨?_, ?_⟩
    · intro branches cur piece last _ h
      cases h
    · intro items cur piece last _ h
      cases h
  | succ n ih => exact ⟨readBranches_passes_step ih.2 ih.1, readBranch_passes_step ih.2 ih.1⟩

/-- **Headers.** Each named group of an expression in one line is begun in its text. -/
theorem read_headers {cs : List Char} {e : Expression} (hline : '\n' ∉ cs) (h : read cs = .ok e)
    {name : String} (hname : some name ∈ e.groups) : HasHeader cs name := by
  obtain ⟨piece, cur, hread, _, rfl⟩ := exists_of_read h
  have hpasses := (readBranches_passes _).1 (by exact hline) hread
  rcases hpasses.groups name (List.mem_reverse.mp hname) with hm | hdeclared
  · cases hm
  · exact hdeclared

end TemplateBench.Regex
