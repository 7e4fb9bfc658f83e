import Mathlib.Data.List.TakeWhile
import TemplateBench.Proofs.Text.Blanks
import TemplateBench.Proofs.Text.Searches
import TemplateBench.TextFsm.Action

/-!
The grammar of actions.

* `Spells` says how an action may be written: its operators, or none of them if they are the default
  ones, and then its target.
* `readTarget_eq_some_iff`, `readRecordOp_eq_some_iff`, `readLineOp_eq_some_iff`: each reader finds
  what is spelled. A keyword ends where its letters end, so none is taken for the beginning of
  another one.
* `parse?_eq_some_iff`: an action is read if and only if it is spelled, and operators win over a
  target that reads like them.
-/
namespace TemplateBench.TextFsm
open Text

/-! ## The grammar -/

/-- White space between two words. -/
def IsBlankRun (cs : List Char) : Prop := cs ≠ [] ∧ ∀ c ∈ cs, isBlank c = true

inductive IsTarget : List Char → Prop
  | word {cs : List Char} : cs ≠ [] → (∀ c ∈ cs, isWord c = true) → IsTarget cs
  | quoted {text : List Char} : '\n' ∉ text → IsTarget ('"' :: text ++ ['"'])

/-- Nothing, or a target behind white space. -/
inductive SpellsTarget : List Char → Option String → Prop
  | nothing : SpellsTarget [] none
  | target {gap : List Char} {target : String} : IsBlankRun gap → IsTarget target.toList →
      SpellsTarget (gap ++ target.toList) (some target)

inductive SpellsOperators : List Char → LineOp → RecordOp → Prop
  | line (l : LineOp) : SpellsOperators l.keyword.toList l .noRecord
  | both (l : LineOp) (r : RecordOp) :
      SpellsOperators (l.keyword.toList ++ '.' :: r.keyword.toList) l r
  | record (r : RecordOp) : SpellsOperators r.keyword.toList .next r

/-- How an action is written behind its arrow. -/
inductive Spells : List Char → Action → Prop
  | operators {gap ops rest : List Char} {a : Action} : IsBlankRun gap →
      SpellsOperators ops a.lineOp a.recordOp → SpellsTarget rest a.target →
      Spells (gap ++ ops ++ rest) a
  | bare {text : List Char} {target : Option String} : SpellsTarget text target →
      Spells text { target }

/-! ## Targets -/

theorem isStateName_iff {cs : List Char} :
    isStateName cs = true ↔ cs ≠ [] ∧ ∀ c ∈ cs, isWord c = true := by
  simp [isStateName]

theorem isQuoted_iff {cs : List Char} :
    isQuoted cs = true ↔ ∃ text, '\n' ∉ text ∧ cs = '"' :: text ++ ['"'] := by
  constructor
  · intro h
    unfold isQuoted at h
    split at h
    · rename_i rest
      simp only [Bool.and_eq_true, beq_iff_eq, Bool.not_eq_true'] at h
      obtain ⟨text, rfl⟩ := List.getLast?_eq_some_iff.mp h.1
      have hline : '\n' ∉ text ++ ['"'] := by simpa using h.2
      exact ⟨text, fun hm => hline (by simp [hm]), rfl⟩
    · cases h
  · rintro ⟨text, hline, rfl⟩
    simp [isQuoted, hline]

theorem isTarget_iff {cs : List Char} :
    (isStateName cs || isQuoted cs) = true ↔ IsTarget cs := by
  rw [Bool.or_eq_true, isStateName_iff, isQuoted_iff]
  constructor
  · rintro (⟨hne, hwords⟩ | ⟨text, hline, rfl⟩)
    · exact .word hne hwords
    · exact .quoted hline
  · intro h
    cases h with
    | word hne hwords => exact .inl ⟨hne, hwords⟩
    | quoted hline => exact .inr ⟨_, hline, rfl⟩

/-- A target begins with no white space. -/
theorem IsTarget.exists_cons {cs : List Char} (h : IsTarget cs) :
    ∃ c rest, cs = c :: rest ∧ isBlank c = false := by
  cases h with
  | word hne hwords =>
    obtain ⟨c, rest, rfl⟩ := List.exists_cons_of_ne_nil hne
    exact ⟨c, rest, rfl, isBlank_of_isWord (hwords c (by simp))⟩
  | quoted => exact ⟨'"', _, rfl, by decide⟩

theorem trimStart_gap {gap : List Char} (h : ∀ c ∈ gap, isBlank c = true) {c : Char}
    (hc : isBlank c = false) (rest : List Char) : trimStart (gap ++ c :: rest) = c :: rest := by
  rw [trimStart, List.dropWhile_append_of_pos h]
  exact trimStart_cons_of_not_isBlank hc rest

/-- White space at the beginning of a text is a gap in front of the rest. -/
theorem exists_gap {c : Char} (hc : isBlank c = true) (rest : List Char) :
    ∃ gap, IsBlankRun gap ∧ c :: rest = gap ++ trimStart rest := by
  refine ⟨c :: rest.takeWhile isBlank, ⟨List.cons_ne_nil _ _, fun d hd => ?_⟩, ?_⟩
  · rcases List.mem_cons.mp hd with rfl | hd
    · exact hc
    · exact List.mem_takeWhile_imp hd
  · rw [List.cons_append, trimStart, List.takeWhile_append_dropWhile]

theorem IsBlankRun.exists_cons {gap : List Char} (h : IsBlankRun gap) {c : Char}
    (hc : isBlank c = false) (rest : List Char) :
    ∃ b tail, gap ++ c :: rest = b :: tail ∧ isBlank b = true ∧ trimStart tail = c :: rest := by
  obtain ⟨b, gap, rfl⟩ := List.exists_cons_of_ne_nil h.1
  exact ⟨b, gap ++ c :: rest, rfl, h.2 b (by simp),
    trimStart_gap (fun d hd => h.2 d (by simp [hd])) hc rest⟩

theorem readTarget_eq_some_iff {cs : List Char} {target : Option String} :
    readTarget cs = some target ↔ SpellsTarget cs target := by
  constructor
  · intro h
    cases cs with
    | nil =>
      cases h
      exact .nothing
    | cons c rest =>
      simp only [readTarget, Option.ite_none_right_eq_some, Option.some.injEq] at h
      obtain ⟨hc, htarget, rfl⟩ := h
      obtain ⟨gap, hgap, hcs⟩ := exists_gap hc rest
      have ht : IsTarget (String.ofList (trimStart rest)).toList := by
        rw [String.toList_ofList]
        exact isTarget_iff.mp htarget
      have hspelled := SpellsTarget.target hgap ht
      rwa [String.toList_ofList, ← hcs] at hspelled
  · intro h
    cases h with
    | nothing => rfl
    | @target gap target hgap ht =>
      obtain ⟨c, rest, hcons, hc⟩ := ht.exists_cons
      obtain ⟨b, tail, htext, hb, htrim⟩ := hgap.exists_cons hc rest
      rw [← hcons] at htext htrim
      simp only [htext, readTarget, hb, htrim, isTarget_iff.mpr ht, if_true, String.ofList_toList]

/-! ## Keywords -/

theorem LineOp.isWord_keyword (l : LineOp) : ∀ c ∈ l.keyword.toList, isWord c = true := by
  rw [← List.all_eq_true]
  cases l <;> decide

theorem RecordOp.isWord_keyword (r : RecordOp) : ∀ c ∈ r.keyword.toList, isWord c = true := by
  rw [← List.all_eq_true]
  cases r <;> decide

theorem LineOp.keyword_inj {l l' : LineOp} (h : l.keyword.toList = l'.keyword.toList) : l = l' := by
  cases l <;> cases l' <;> first | rfl | exact absurd h (by decide)

theorem RecordOp.keyword_inj {r r' : RecordOp} (h : r.keyword.toList = r'.keyword.toList) :
    r = r' := by
  cases r <;> cases r' <;> first | rfl | exact absurd h (by decide)

theorem keyword_ne (l : LineOp) (r : RecordOp) : l.keyword.toList ≠ r.keyword.toList := by
  cases l <;> cases r <;> decide

theorem mem_lineOps (l : LineOp) : l ∈ lineOps := by
  cases l <;> decide

theorem mem_recordOps (r : RecordOp) : r ∈ recordOps := by
  cases r <;> decide

/-- A text that does not go on with a letter. -/
def Breaks (cs : List Char) : Prop := ∀ c rest, cs = c :: rest → isWord c = false

theorem SpellsTarget.breaks {cs : List Char} {target : Option String}
    (h : SpellsTarget cs target) : Breaks cs := by
  intro c rest he
  cases h with
  | nothing => cases he
  | target hgap _ =>
    obtain ⟨b, gap, rfl⟩ := List.exists_cons_of_ne_nil hgap.1
    cases he
    rw [Bool.eq_false_iff]
    intro hword
    exact Bool.false_ne_true ((isBlank_of_isWord hword).symm.trans (hgap.2 c (by simp)))

/-- A word that a text begins with is all of its letters up to the first other character. -/
theorem word_unique {word word' rest rest' : List Char} (hw : ∀ c ∈ word, isWord c = true)
    (hw' : ∀ c ∈ word', isWord c = true) (hr : Breaks rest) (hr' : Breaks rest')
    (h : word ++ rest = word' ++ rest') : word = word' ∧ rest = rest' := by
  have htake : ∀ {word rest : List Char}, (∀ c ∈ word, isWord c = true) → Breaks rest →
      (word ++ rest).takeWhile isWord = word := by
    intro word rest hword hrest
    rw [List.takeWhile_append_of_pos hword]
    cases rest with
    | nil => simp
    | cons c rest => simp [hrest c rest rfl]
  have hwords : word = word' := by
    rw [← htake hw hr, h, htake hw' hr']
  subst hwords
  exact ⟨rfl, List.append_cancel_left h⟩

/-- Of words that a text may begin with, the one is found behind which the rest can be read. -/
theorem findSome?_keyword_iff {α β γ : Type} {ops : List α} (hops : ∀ op, op ∈ ops)
    {keyword : α → List Char} (hword : ∀ op, ∀ c ∈ keyword op, isWord c = true)
    (hinj : ∀ {op op'}, keyword op = keyword op' → op = op') {read : List Char → Option β}
    (hread : ∀ rest b, read rest = some b → Breaks rest) (f : α → β → γ) {cs : List Char} {c : γ} :
    (ops.findSome? fun op => ((dropFront (keyword op) cs).bind read).map (f op)) = some c ↔
      ∃ op rest b, cs = keyword op ++ rest ∧ read rest = some b ∧ f op b = c := by
  have hop : ∀ (op : α) (c : γ),
      ((dropFront (keyword op) cs).bind read).map (f op) = some c ↔
        ∃ rest b, cs = keyword op ++ rest ∧ read rest = some b ∧ f op b = c := by
    intro op c
    simp only [Option.map_eq_some_iff, Option.bind_eq_some_iff, dropFront_eq_some_iff]
    constructor
    · rintro ⟨b, ⟨rest, hcs, hb⟩, hc⟩
      exact ⟨rest, b, hcs, hb, hc⟩
    · rintro ⟨rest, b, hcs, hb, hc⟩
      exact ⟨b, ⟨rest, hcs, hb⟩, hc⟩
  constructor
  · intro h
    obtain ⟨op, _, hc⟩ := List.exists_of_findSome?_eq_some h
    exact ⟨op, (hop op c).mp hc⟩
  · rintro ⟨op, rest, b, hcs, hb, hc⟩
    cases h : ops.findSome? fun op => ((dropFront (keyword op) cs).bind read).map (f op) with
    | none =>
      have hnone := List.findSome?_eq_none_iff.mp h op (hops op)
      rw [(hop op c).mpr ⟨rest, b, hcs, hb, hc⟩] at hnone
      cases hnone
    | some c' =>
      obtain ⟨op', _, hc'⟩ := List.exists_of_findSome?_eq_some h
      obtain ⟨rest', b', hcs', hb', rfl⟩ := (hop op' c').mp hc'
      obtain ⟨hkeyword, rfl⟩ := word_unique (hword op) (hword op') (hread rest b hb)
        (hread rest' b' hb') (hcs.symm.trans hcs')
      obtain rfl := hinj hkeyword
      obtain rfl := Option.some.inj (hb.symm.trans hb')
      rw [hc]

/-! ## Operators -/

theorem readTarget_breaks (rest : List Char) (target : Option String)
    (h : readTarget rest = some target) : Breaks rest :=
  (readTarget_eq_some_iff.mp h).breaks

theorem readRecordOp_eq_some_iff {cs : List Char} {r : RecordOp} {target : Option String} :
    readRecordOp cs = some (r, target) ↔
      ∃ rest, cs = r.keyword.toList ++ rest ∧ SpellsTarget rest target := by
  rw [readRecordOp, findSome?_keyword_iff mem_recordOps RecordOp.isWord_keyword
    RecordOp.keyword_inj readTarget_breaks Prod.mk]
  constructor
  · rintro ⟨_, rest, _, hcs, htarget, he⟩
    cases he
    exact ⟨rest, hcs, readTarget_eq_some_iff.mp htarget⟩
  · rintro ⟨rest, hcs, htarget⟩
    exact ⟨r, rest, target, hcs, readTarget_eq_some_iff.mpr htarget, rfl⟩

/-- What may stand behind a line operator. -/
def SpellsAfterLineOp (cs : List Char) (r : RecordOp) (target : Option String) : Prop :=
  (∃ rest, cs = '.' :: r.keyword.toList ++ rest ∧ SpellsTarget rest target) ∨
    r = .noRecord ∧ SpellsTarget cs target

theorem SpellsAfterLineOp.breaks {cs : List Char} {r : RecordOp} {target : Option String}
    (h : SpellsAfterLineOp cs r target) : Breaks cs := by
  rcases h with ⟨rest, rfl, _⟩ | ⟨_, htarget⟩
  · intro c tail he
    cases he
    decide
  · exact htarget.breaks

theorem readAfterLineOp_eq_some_iff {cs : List Char} {r : RecordOp} {target : Option String} :
    readAfterLineOp cs = some (r, target) ↔ SpellsAfterLineOp cs r target := by
  have hdot : ∀ rest, ¬ SpellsTarget ('.' :: rest) target := by
    intro rest h
    have hnone : readTarget ('.' :: rest) = none := by
      have hblank : isBlank '.' = false := by decide
      simp [readTarget, hblank]
    rw [readTarget_eq_some_iff.mpr h] at hnone
    cases hnone
  unfold readAfterLineOp
  split
  · rename_i rest
    rw [readRecordOp_eq_some_iff]
    constructor
    · rintro ⟨tail, rfl, htarget⟩
      exact .inl ⟨tail, rfl, htarget⟩
    · rintro (⟨tail, he, htarget⟩ | ⟨_, htarget⟩)
      · cases he
        exact ⟨tail, rfl, htarget⟩
      · exact absurd htarget (hdot rest)
  · rename_i hnot
    simp only [Option.map_eq_some_iff, readTarget_eq_some_iff, Prod.mk.injEq]
    constructor
    · rintro ⟨_, htarget, rfl, rfl⟩
      exact .inr ⟨rfl, htarget⟩
    · rintro (⟨tail, rfl, _⟩ | ⟨rfl, htarget⟩)
      · exact absurd rfl (hnot _)
      · exact ⟨target, htarget, rfl, rfl⟩

theorem readLineOp_eq_some_iff {cs : List Char} {a : Action} :
    readLineOp cs = some a ↔
      ∃ rest, cs = a.lineOp.keyword.toList ++ rest ∧
        SpellsAfterLineOp rest a.recordOp a.target := by
  rw [readLineOp, findSome?_keyword_iff mem_lineOps LineOp.isWord_keyword LineOp.keyword_inj
    (fun _ _ h => (readAfterLineOp_eq_some_iff.mp h).breaks)
    (fun op (after : RecordOp × Option String) => (⟨op, after.1, after.2⟩ : Action))]
  constructor
  · rintro ⟨op, rest, ⟨r, target⟩, hcs, hrest, he⟩
    cases he
    exact ⟨rest, hcs, readAfterLineOp_eq_some_iff.mp hrest⟩
  · rintro ⟨rest, hcs, hrest⟩
    exact ⟨a.lineOp, rest, (a.recordOp, a.target), hcs, readAfterLineOp_eq_some_iff.mpr hrest, rfl⟩

/-- The part of an action from its operators on. -/
def readOperators (cs : List Char) : Option Action :=
  match readLineOp cs with
  | some a => some a
  | none => (readRecordOp cs).map fun (recordOp, target) => { recordOp, target }

theorem readOperators_eq_some_iff {cs : List Char} {a : Action} :
    readOperators cs = some a ↔
      ∃ ops rest, cs = ops ++ rest ∧ SpellsOperators ops a.lineOp a.recordOp ∧
        SpellsTarget rest a.target := by
  unfold readOperators
  constructor
  · intro h
    split at h
    · rename_i a' hline
      cases h
      obtain ⟨rest, rfl, ⟨tail, rfl, htarget⟩ | ⟨hr, htarget⟩⟩ := readLineOp_eq_some_iff.mp hline
      · exact ⟨_, tail, by simp, .both a.lineOp a.recordOp, htarget⟩
      · exact ⟨_, rest, rfl, by rw [hr]; exact .line a.lineOp, htarget⟩
    · obtain ⟨⟨r, target⟩, hrecord, rfl⟩ := Option.map_eq_some_iff.mp h
      obtain ⟨rest, rfl, htarget⟩ := readRecordOp_eq_some_iff.mp hrecord
      exact ⟨_, rest, rfl, .record r, htarget⟩
  · rintro ⟨ops, rest, rfl, hops, htarget⟩
    obtain ⟨l, r, target⟩ := a
    cases hops with
    | line =>
      have hline : readLineOp (l.keyword.toList ++ rest) = some ⟨l, .noRecord, target⟩ :=
        readLineOp_eq_some_iff.mpr ⟨rest, rfl, .inr ⟨rfl, htarget⟩⟩
      rw [hline]
    | both =>
      have hline : readLineOp (l.keyword.toList ++ ('.' :: r.keyword.toList ++ rest)) =
          some ⟨l, r, target⟩ :=
        readLineOp_eq_some_iff.mpr ⟨_, rfl, .inl ⟨rest, rfl, htarget⟩⟩
      rw [List.append_assoc, hline]
    | record =>
      have hrecord : readRecordOp (r.keyword.toList ++ rest) = some (r, target) :=
        readRecordOp_eq_some_iff.mpr ⟨rest, rfl, htarget⟩
      split
      · -- no line operator is spelled like a record operator
        rename_i a' hline
        obtain ⟨rest', he, hrest'⟩ := readLineOp_eq_some_iff.mp hline
        have hword := word_unique r.isWord_keyword a'.lineOp.isWord_keyword htarget.breaks
          hrest'.breaks he
        exact absurd hword.1.symm (keyword_ne _ _)
      · rw [hrecord]
        rfl

/-! ## Actions -/

theorem SpellsOperators.exists_cons {ops : List Char} {l : LineOp} {r : RecordOp}
    (h : SpellsOperators ops l r) : ∃ c rest, ops = c :: rest ∧ isWord c = true := by
  have hline : ∃ c rest, l.keyword.toList = c :: rest ∧ isWord c = true := by
    cases l <;> exact ⟨_, _, rfl, by decide⟩
  have hrecord : ∃ c rest, r.keyword.toList = c :: rest ∧ isWord c = true := by
    cases r <;> exact ⟨_, _, rfl, by decide⟩
  cases h with
  | line => exact hline
  | both =>
    obtain ⟨c, rest, hl, hc⟩ := hline
    exact ⟨c, rest ++ '.' :: r.keyword.toList, by rw [hl]; rfl, hc⟩
  | record => exact hrecord

/-- Behind white space a text begins with its operators. -/
theorem SpellsOperators.behind {gap ops : List Char} {l : LineOp} {r : RecordOp}
    (h : SpellsOperators ops l r) (hgap : IsBlankRun gap) (rest : List Char) :
    ∃ b tail, gap ++ ops ++ rest = b :: tail ∧ isBlank b = true ∧ trimStart tail = ops ++ rest := by
  obtain ⟨c, word, rfl, hc⟩ := h.exists_cons
  rw [List.append_assoc]
  exact hgap.exists_cons (isBlank_of_isWord hc) (word ++ rest)

/-- Operators are read behind white space. -/
def readGapOperators (cs : List Char) : Option Action :=
  match cs with
  | c :: rest => if isBlank c then readOperators (trimStart rest) else none
  | [] => none

theorem parse?_eq (cs : List Char) :
    Action.parse? cs =
      match readGapOperators cs with
      | some action => some action
      | none => (readTarget cs).map fun target => { target } := by
  cases cs <;> rfl

theorem readGapOperators_eq_some_iff {cs : List Char} {a : Action} :
    readGapOperators cs = some a ↔
      ∃ gap ops rest, cs = gap ++ ops ++ rest ∧ IsBlankRun gap ∧
        SpellsOperators ops a.lineOp a.recordOp ∧ SpellsTarget rest a.target := by
  constructor
  · intro h
    cases cs with
    | nil => cases h
    | cons c tail =>
      simp only [readGapOperators, Option.ite_none_right_eq_some] at h
      obtain ⟨gap, hgap, hcs⟩ := exists_gap h.1 tail
      obtain ⟨ops, rest, htail, hops, htarget⟩ := readOperators_eq_some_iff.mp h.2
      exact ⟨gap, ops, rest, by rw [hcs, htail, List.append_assoc], hgap, hops, htarget⟩
  · rintro ⟨gap, ops, rest, rfl, hgap, hops, htarget⟩
    obtain ⟨b, tail, htext, hb, htrim⟩ := hops.behind hgap rest
    simp only [htext, readGapOperators, hb, htrim, if_true]
    exact readOperators_eq_some_iff.mpr ⟨ops, rest, rfl, hops, htarget⟩

theorem spells_iff {cs : List Char} {a : Action} :
    Spells cs a ↔
      readGapOperators cs = some a ∨ ∃ target, readTarget cs = some target ∧ a = { target } := by
  rw [readGapOperators_eq_some_iff]
  constructor
  · intro h
    cases h with
    | operators hgap hops htarget => exact .inl ⟨_, _, _, rfl, hgap, hops, htarget⟩
    | bare htarget => exact .inr ⟨_, readTarget_eq_some_iff.mpr htarget, rfl⟩
  · rintro (⟨gap, ops, rest, rfl, hgap, hops, htarget⟩ | ⟨target, htarget, rfl⟩)
    · exact .operators hgap hops htarget
    · exact .bare (readTarget_eq_some_iff.mp htarget)

/-- A target that reads like operators is their word, and they have no target of their own. -/
theorem target_eq_none_of_readTarget {cs : List Char} {a : Action} {target : Option String}
    (h : readGapOperators cs = some a) (ht : readTarget cs = some target) :
    a.target = none ∧
      ∃ word, target = some word ∧ SpellsOperators word.toList a.lineOp a.recordOp := by
  obtain ⟨gap, ops, rest, rfl, hgap, hops, hrest⟩ := readGapOperators_eq_some_iff.mp h
  obtain ⟨b, tail, htext, hb, htrim⟩ := hops.behind hgap rest
  simp only [htext, readTarget, hb, htrim, if_true, Option.ite_none_right_eq_some,
    Option.some.injEq] at ht
  obtain ⟨hword, rfl⟩ := ht
  have hquote : isQuoted (ops ++ rest) = false := by
    obtain ⟨c, word, hcons, hc⟩ := hops.exists_cons
    rw [hcons, List.cons_append, isQuoted]
    intro _ he
    cases he
    revert hc
    decide
  rw [hquote, Bool.or_false, isStateName_iff] at hword
  generalize a.target = target at hrest
  cases hrest with
  | nothing => exact ⟨rfl, _, rfl, by rwa [String.toList_ofList, List.append_nil]⟩
  | target hgap' _ =>
    obtain ⟨d, more, rfl⟩ := List.exists_cons_of_ne_nil hgap'.1
    have hd := isBlank_of_isWord (hword.2 d (by simp))
    rw [hgap'.2 d (by simp)] at hd
    cases hd

/-- **Actions.** An action is read if and only if it is spelled so, and a text that spells operators
without a target is read as these, not as a target. -/
theorem parse?_eq_some_iff {cs : List Char} {a : Action} :
    Action.parse? cs = some a ↔
      Spells cs a ∧ ∀ b : Action, b.target = none → Spells cs b → a = b := by
  rw [parse?_eq]
  simp only [spells_iff]
  constructor
  · intro h
    split at h
    · rename_i a' hread
      cases h
      refine ⟨.inl hread, ?_⟩
      rintro b hb (hread' | ⟨target, htarget, rfl⟩)
      · exact Option.some.inj (hread.symm.trans hread')
      · obtain ⟨_, word, rfl, _⟩ := target_eq_none_of_readTarget hread htarget
        cases hb
    · rename_i hnone
      obtain ⟨target, htarget, rfl⟩ := Option.map_eq_some_iff.mp h
      refine ⟨.inr ⟨target, htarget, rfl⟩, ?_⟩
      rintro b hb (hread | ⟨target', htarget', rfl⟩)
      · rw [hnone] at hread
        cases hread
      · rw [Option.some.inj (htarget.symm.trans htarget')]
  · rintro ⟨hread | ⟨target, htarget, rfl⟩, hfirst⟩
    · rw [hread]
    · cases hread : readGapOperators cs with
      | none => simp [htarget]
      | some b =>
        have hb := (target_eq_none_of_readTarget hread htarget).1
        rw [← hfirst b hb (.inl hread)]

/-- A text that spells an action is read, as this one or as operators without a target. -/
theorem Spells.exists_parse? {cs : List Char} {a : Action} (h : Spells cs a) :
    ∃ b, Action.parse? cs = some b ∧ (b = a ∨ b.target = none) := by
  rw [parse?_eq]
  rcases spells_iff.mp h with hread | ⟨target, htarget, rfl⟩
  · rw [hread]
    exact ⟨a, rfl, .inl rfl⟩
  · cases hread : readGapOperators cs with
    | none => exact ⟨{ target }, by rw [htarget]; rfl, .inl rfl⟩
    | some b => exact ⟨b, rfl, .inr (target_eq_none_of_readTarget hread htarget).1⟩

end TemplateBench.TextFsm
