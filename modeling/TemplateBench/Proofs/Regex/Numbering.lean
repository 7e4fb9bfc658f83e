import TemplateBench.Proofs.Json.Members
import TemplateBench.Proofs.Regex.Inside

/-!
How a reader numbers the groups of an expression.

* `Numbered`: groups are numbered in their order, and no two have the same name.
* `readBranches_numbered`: reading keeps that, whatever has been read in front.
* `read_numbered`: so the groups of an expression are numbered from one.
* `captured?_of_mem`, `namedGroups_eq`: so each name has one text in a match.
-/
namespace TemplateBench.Regex

/-- The groups read since there were `base` of them, and the names of all. -/
structure Numbered (base : Nat) (numbers : List Nat) (groups : List (Option String)) : Prop where
  numbers_eq : numbers = List.range' (base + 1) numbers.length
  length_eq : groups.length = base + numbers.length
  distinct : (groups.filterMap id).Nodup

namespace Numbered

variable {base : Nat} {numbers more : List Nat} {groups groups' : List (Option String)}

theorem start (h : Numbered base numbers groups) : Numbered groups.length [] groups :=
  ⟨rfl, rfl, h.distinct⟩

theorem append (h : Numbered base numbers groups) (h' : Numbered groups.length more groups') :
    Numbered base (numbers ++ more) groups' := by
  refine ⟨?_, ?_, h'.distinct⟩
  · rw [List.length_append, ← List.range'_append_1, ← h.numbers_eq, Nat.add_right_comm,
      ← h.length_eq, ← h'.numbers_eq]
  · rw [h'.length_eq, h.length_eq, List.length_append, Nat.add_assoc]

/-- A group is numbered before the groups in it. -/
theorem group {name : Option String} (hname : (name.isSome && groups.contains name) = false)
    (h : Numbered base numbers groups) : Numbered (groups.length + 1) [] (name :: groups) := by
  refine ⟨rfl, rfl, ?_⟩
  cases name with
  | none => simpa using h.distinct
  | some name =>
    have hnew : name ∉ groups.filterMap id := by simpa using hname
    exact List.nodup_cons.mpr ⟨hnew, h.distinct⟩

theorem cons_group (h : Numbered (groups.length + 1) more groups') :
    Numbered groups.length ((groups.length + 1) :: more) groups' := by
  refine ⟨?_, ?_, h.distinct⟩
  · rw [List.length_cons, List.range'_succ, ← h.numbers_eq]
  · rw [h.length_eq, List.length_cons]
    omega

end Numbered

theorem Pattern.numbers_seqs (ps : List Pattern) : (seqs ps).numbers = ps.flatMap numbers := by
  induction ps with
  | nil => rfl
  | cons p rest ih =>
    cases rest with
    | nil => simp [seqs]
    | cons q rest =>
      rw [List.flatMap_cons, ← ih]
      rfl

theorem Pattern.numbers_alts (ps : List Pattern) : (alts ps).numbers = ps.flatMap numbers := by
  induction ps with
  | nil => rfl
  | cons p rest ih =>
    cases rest with
    | nil => simp [alts]
    | cons q rest =>
      rw [List.flatMap_cons, ← ih]
      rfl

/-! ## Reading -/

/-- The groups in the pieces of a branch, which come last first. -/
def numbersOf (items : List (Option Piece)) : List Nat :=
  (items.reverse.filterMap id).flatMap fun piece => piece.pattern.numbers

theorem numbersOf_cons (piece : Piece) (items : List (Option Piece)) :
    numbersOf (some piece :: items) = numbersOf items ++ piece.pattern.numbers := by
  simp [numbersOf]

theorem numbersOf_none (items : List (Option Piece)) :
    numbersOf (none :: items) = numbersOf items := by
  simp [numbersOf]

theorem numbers_branchOf (items : List (Option Piece)) :
    (branchOf items).pattern.numbers = numbersOf items := by
  simp only [branchOf, Pattern.numbers_seqs, numbersOf, List.flatMap_map]

theorem numbers_alternativesOf (branches : List Piece) :
    (alternativesOf branches).pattern.numbers = branches.flatMap fun p => p.pattern.numbers := by
  simp [alternativesOf, Pattern.numbers_alts, List.flatMap_map]

theorem numbersOf_repeatLast {flags : Flags} {least : Nat} {most : Option Nat} {lazy : Bool}
    {items items' : List (Option Piece)} (h : repeatLast flags least most lazy items = .ok items') :
    numbersOf items' = numbersOf items := by
  rcases items with _ | ⟨_ | p, items⟩
  · cases h
  · cases h
  · cases h
    rw [numbersOf_cons, numbersOf_cons]
    rfl

def BranchesNumbered (n : Nat) : Prop :=
  ∀ {branches cur base piece last},
    Numbered base (branches.reverse.flatMap fun p => p.pattern.numbers) cur.groups →
    readBranches n branches cur = .ok (piece, last) →
    Numbered base piece.pattern.numbers last.groups

def BranchNumbered (n : Nat) : Prop :=
  ∀ {items cur base piece last}, Numbered base (numbersOf items) cur.groups →
    readBranch n items cur = .ok (piece, last) → Numbered base piece.pattern.numbers last.groups

theorem readBranches_numbered_step {n : Nat} (h : BranchNumbered n) (hb : BranchesNumbered n) :
    BranchesNumbered (n + 1) := by
  intro branches cur base piece last hcur hread
  rw [readBranches] at hread
  obtain ⟨⟨branch, done⟩, hbranch, hread⟩ := bind_eq_ok_iff.mp hread
  have hnew := hcur.append (h (by exact hcur.start) hbranch)
  dsimp only at hread
  split at hread
  · exact hb (by simpa using hnew) hread
  · cases hread
    simpa [numbers_alternativesOf] using hnew

section

variable {n base : Nat} {flags : Flags} {groups : List (Option String)} {rest : List Char}
  {items : List (Option Piece)} {piece : Piece} {last : Cursor}

theorem BranchNumbered.push (h : BranchNumbered n) (hitems : Numbered base (numbersOf items) groups)
    {new : Piece} (hnew : new.pattern.numbers = [])
    (hread : readBranch n (some new :: items) ⟨rest, flags, groups⟩ = .ok (piece, last)) :
    Numbered base piece.pattern.numbers last.groups := by
  refine h ?_ hread
  rwa [numbersOf_cons, hnew, List.append_nil]

theorem BranchNumbered.quantified (h : BranchNumbered n)
    (hitems : Numbered base (numbersOf items) groups) {least : Nat} {most : Option Nat}
    (hread : (do
      let items ← repeatLast flags least most (lazyMark rest).1 items
      readBranch n items ⟨(lazyMark rest).2, flags, groups⟩) = .ok (piece, last)) :
    Numbered base piece.pattern.numbers last.groups := by
  obtain ⟨items', hitems', hread⟩ := bind_eq_ok_iff.mp hread
  refine h ?_ hread
  rwa [numbersOf_repeatLast hitems']

end

theorem readBranch_numbered_step {n : Nat} (h : BranchNumbered n) (hb : BranchesNumbered n) :
    BranchNumbered (n + 1) := by
  rintro items ⟨rest, flags, groups⟩ base piece last hcur hread
  rw [readBranch] at hread
  dsimp only at hread hcur
  split at hread
  · cases hread
    rwa [numbers_branchOf]
  · rename_i c rest hsettled
    split at hread
    case h_1 | h_2 =>
      cases hread
      rwa [numbers_branchOf]
    case h_3 =>
      obtain ⟨⟨opening, rest⟩, _, hread⟩ := bind_eq_ok_iff.mp hread
      cases opening with
      | setFlags changed => exact h (by rwa [numbersOf_none]) hread
      | plain inner =>
        obtain ⟨⟨body, done⟩, hbody, hread⟩ := bind_eq_ok_iff.mp hread
        have hbody := hcur.append (hb (by exact hcur.start) hbody)
        dsimp only at hread
        split at hread
        · exact h (by rwa [numbersOf_cons]) hread
        · cases hread
      | capture name =>
        dsimp only at hread
        split at hread
        · cases hread
        · rename_i hname
          obtain ⟨⟨body, done⟩, hbody, hread⟩ := bind_eq_ok_iff.mp hread
          have hopened := hcur.group (Bool.eq_false_iff.mpr hname)
          have hbody := hcur.append (hb (by exact hopened) hbody).cons_group
          dsimp only at hread
          split at hread
          · exact h (by rwa [numbersOf_cons]) hread
          · cases hread
    case h_4 | h_5 | h_6 => exact h.quantified hcur hread
    case h_7 =>
      obtain ⟨⟨⟨least, most⟩, rest⟩, _, hread⟩ := bind_eq_ok_iff.mp hread
      exact h.quantified hcur hread
    case h_8 =>
      obtain ⟨⟨s, rest⟩, _, hread⟩ := bind_eq_ok_iff.mp hread
      exact h.push hcur rfl hread
    case h_9 =>
      obtain ⟨s, _, hread⟩ := bind_eq_ok_iff.mp hread
      exact h.push hcur rfl hread
    case h_10 | h_11 => exact h.push hcur rfl hread
    case h_12 =>
      obtain ⟨⟨e, rest⟩, _, hread⟩ := bind_eq_ok_iff.mp hread
      cases e with
      | char c numbered =>
        dsimp only at hread
        split at hread
        · cases hread
        · exact h.push hcur rfl hread
      | set s => exact h.push hcur rfl hread
      | look l => exact h.push hcur rfl hread
    case h_13 => exact h.push hcur rfl hread

theorem readBranches_numbered (n : Nat) : BranchesNumbered n ∧ BranchNumbered n := by
  induction n with
  | zero =>
    refine ⟨?_, ?_⟩
    · intro branches cur base piece last _ h
      cases h
    · intro items cur base piece last _ h
      cases h
  | succ n ih => exact ⟨readBranches_numbered_step ih.2 ih.1, readBranch_numbered_step ih.2 ih.1⟩

/-- **Numbering.** The groups of an expression are numbered from one in the order of their opening
parentheses, and no two of them have the same name. -/
theorem read_numbered {cs : List Char} {e : Expression} (h : read cs = .ok e) :
    e.pattern.numbers = List.range' 1 e.groups.length ∧ (e.groups.filterMap id).Nodup := by
  obtain ⟨piece, cur, hread, _, rfl⟩ := exists_of_read h
  have hstart : Numbered 0 [] ({ rest := cs } : Cursor).groups := ⟨rfl, rfl, .nil⟩
  have hend := (readBranches_numbered _).1 (by exact hstart) hread
  refine ⟨?_, ?_⟩
  · rw [List.length_reverse, hend.length_eq, Nat.zero_add, ← hend.numbers_eq]
  · exact ((List.reverse_perm cur.groups).filterMap id).nodup_iff.mpr hend.distinct

/-! ## Named groups -/

/-- What a match captured for the group of a name. -/
def captured? (r : Regex) (text : List Char) (m : Match) (name : String) : Option String :=
  ((r.namedGroups text m).lookup name).join

def names (r : Regex) : List String := r.groups.filterMap id

variable {r : Regex} {text : List Char} {m : Match} {name : String} {captured : Option String}

theorem map_namedGroups (r : Regex) (text : List Char) (m : Match) :
    (r.namedGroups text m).map (·.1) = r.names := by
  have hpairs : (r.groups.zipIdx 1).map Prod.fst = r.groups := List.zipIdx_map_fst 1 r.groups
  rw [names, ← hpairs, List.filterMap_map, namedGroups, List.map_filterMap]
  refine List.filterMap_congr fun pair _ => ?_
  obtain ⟨_ | name, g⟩ := pair <;> rfl

theorem mem_namedGroups_iff :
    (name, captured) ∈ r.namedGroups text m ↔
      ∃ i, r.groups[i]? = some (some name) ∧ captured = groupText text m (i + 1) := by
  simp only [namedGroups, List.mem_filterMap, Prod.exists, Option.map_eq_some_iff, Prod.mk.injEq,
    List.mk_mem_zipIdx_iff_le_and_getElem?_sub]
  constructor
  · rintro ⟨_, g, ⟨hle, hg⟩, name', rfl, rfl, rfl⟩
    exact ⟨g - 1, hg, by rw [Nat.sub_add_cancel hle]⟩
  · rintro ⟨i, hi, rfl⟩
    exact ⟨_, i + 1, ⟨Nat.le_add_left 1 i, by simpa using hi⟩, name, rfl, rfl, rfl⟩

theorem captured?_congr {r' : Regex} (h : r.groups = r'.groups) (text : List Char) (m : Match)
    (name : String) : r.captured? text m name = r'.captured? text m name := by
  simp only [captured?, namedGroups, h]

theorem names_nodup {source : String} (h : Regex.compile source = .ok r) : r.names.Nodup :=
  (read_numbered (read_of_compile h)).2

theorem captured?_of_mem (hn : r.names.Nodup) (h : (name, captured) ∈ r.namedGroups text m) :
    r.captured? text m name = captured := by
  rw [captured?, lookup_of_mem (by rwa [map_namedGroups]) h, Option.join_some]

theorem namedGroups_eq (hn : r.names.Nodup) (text : List Char) (m : Match) :
    r.namedGroups text m = r.names.map fun name => (name, r.captured? text m name) := by
  rw [← map_namedGroups r text m, List.map_map]
  refine (List.map_id _).symm.trans (List.map_congr_left fun group hgroup => ?_)
  exact Prod.ext rfl (captured?_of_mem hn hgroup).symm

end TemplateBench.Regex
