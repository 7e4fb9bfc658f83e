import Mathlib.Data.List.Forall2
import TemplateBench.Proofs.Text.Blanks
import TemplateBench.Proofs.Text.Searches
import TemplateBench.Proofs.Ttp.Passages

/-!
The blocks of a token pattern template.

* `Mark`: what a line of a template is, a tag that opens or closes a group or a pattern line;
  `ofLine_eq_iff` says which lines are which.
* `Part`: a pattern line outside of any block, or a block with its lines.
* `Reads.parts`: a template that is read to its end is a sequence of parts.
* `exists_reads`: a template whose tags open and close in turn can be read if its pattern lines
  compile.
* `fill_keeps`: no capture is lost if every variable has a column.
* `compile_blocks`: which templates compile, to which groups, and with which header.
-/
namespace TemplateBench.Ttp
open Text

/-! ## Tags -/

theorem trimStart_eq_cons_iff {c : Char} (hc : isBlank c = false) {cs rest : List Char} :
    trimStart cs = c :: rest ↔ ∃ gap, (∀ d ∈ gap, isBlank d = true) ∧ cs = gap ++ c :: rest := by
  constructor
  · intro h
    refine ⟨cs.takeWhile isBlank, fun d hd => List.mem_takeWhile_imp hd, ?_⟩
    rw [← h]
    exact List.takeWhile_append_dropWhile.symm
  · rintro ⟨gap, hgap, rfl⟩
    rw [trimStart, List.dropWhile_append_of_pos hgap]
    exact trimStart_cons_of_not_isBlank hc rest

/-- A given text behind white space. -/
theorem dropFront_trimStart_iff {front : List Char} (hfront : front.head?.any (!isBlank ·) = true)
    {cs rest : List Char} :
    dropFront front (trimStart cs) = some rest ↔
      ∃ gap, (∀ d ∈ gap, isBlank d = true) ∧ cs = gap ++ (front ++ rest) := by
  cases front with
  | nil => cases hfront
  | cons c front =>
    rw [dropFront_eq_some_iff, List.cons_append, trimStart_eq_cons_iff (by simpa using hfront)]

theorem isTagEnd_iff {cs : List Char} :
    isTagEnd cs = true ↔ ∃ gap, (∀ d ∈ gap, isBlank d = true) ∧ cs = gap ++ ['>'] := by
  rw [isTagEnd, beq_iff_eq, trimStart_eq_cons_iff (by decide)]

/-- The name of a tag, written `name = "..."` with white space wherever there is a gap. -/
inductive NamesGroup (name rest : List Char) : List Char → Prop
  | intro {gap before behind : List Char} : (∀ c ∈ gap, isBlank c = true) →
      (∀ c ∈ before, isBlank c = true) → (∀ c ∈ behind, isBlank c = true) → '"' ∉ name →
      NamesGroup name rest
        (gap ++ ("name".toList ++ (before ++ (['='] ++ (behind ++ (['"'] ++ (name ++ '"' :: rest)))))))

/-- The text up to the next quotation mark. -/
theorem span_quote_iff {cs name rest : List Char} {c : Char} :
    cs.span (· ≠ '"') = (name, c :: rest) ↔ c = '"' ∧ '"' ∉ name ∧ cs = name ++ '"' :: rest := by
  rw [List.span_eq_takeWhile_dropWhile, Prod.mk.injEq]
  constructor
  · rintro ⟨hname, hrest⟩
    have hquote : c = '"' := by
      have hhead := List.head?_dropWhile_not (· ≠ '"') cs
      rw [hrest] at hhead
      simpa using hhead
    subst hquote
    refine ⟨rfl, fun hm => ?_, ?_⟩
    · rw [← hname] at hm
      simpa using List.mem_takeWhile_imp hm
    · rw [← hname, ← hrest]
      exact List.takeWhile_append_dropWhile.symm
  · rintro ⟨rfl, hnot, rfl⟩
    have hall : ∀ d ∈ name, decide (d ≠ '"') = true := fun d hd =>
      decide_eq_true fun he => hnot (he ▸ hd)
    rw [List.takeWhile_append_of_pos hall, List.dropWhile_append_of_pos hall]
    simp

theorem nameAttribute?_eq_some_iff {cs name rest : List Char} :
    nameAttribute? cs = some (name, rest) ↔ NamesGroup name rest cs := by
  simp only [nameAttribute?, bind, Option.bind_eq_some_iff]
  constructor
  · rintro ⟨cs₁, h₁, cs₂, h₂, cs₃, h₃, h⟩
    obtain ⟨gap, hgap, rfl⟩ := (dropFront_trimStart_iff rfl).mp h₁
    obtain ⟨before, hbefore, rfl⟩ := (dropFront_trimStart_iff rfl).mp h₂
    obtain ⟨behind, hbehind, rfl⟩ := (dropFront_trimStart_iff rfl).mp h₃
    split at h
    · rename_i hspan
      cases h
      obtain ⟨-, hnot, rfl⟩ := span_quote_iff.mp hspan
      exact .intro hgap hbefore hbehind hnot
    · cases h
  · rintro ⟨hgap, hbefore, hbehind, hnot⟩
    refine ⟨_, (dropFront_trimStart_iff rfl).mpr ⟨_, hgap, rfl⟩, _,
      (dropFront_trimStart_iff rfl).mpr ⟨_, hbefore, rfl⟩, _,
      (dropFront_trimStart_iff rfl).mpr ⟨_, hbehind, rfl⟩, ?_⟩
    rw [span_quote_iff.mpr ⟨rfl, hnot, rfl⟩]

/-- A line that opens a group, and the name that it gives to the group. -/
inductive OpensGroup : List Char → String → Prop
  | bare {gap : List Char} : (∀ c ∈ gap, isBlank c = true) →
      OpensGroup ("<group".toList ++ (gap ++ ['>'])) anonymousName
  | named {text name gap : List Char} : text.head?.any isBlank = true →
      NamesGroup name (gap ++ ['>']) text → (∀ c ∈ gap, isBlank c = true) →
      OpensGroup ("<group".toList ++ text) (String.ofList name)

theorem not_namesGroup_gap {gap name rest : List Char} (hgap : ∀ c ∈ gap, isBlank c = true) :
    ¬ NamesGroup name rest (gap ++ ['>']) := by
  intro h
  have hn := nameAttribute?_eq_some_iff.mpr h
  have hend : trimStart (gap ++ ['>']) = ['>'] :=
    (trimStart_eq_cons_iff (by decide)).mpr ⟨gap, hgap, rfl⟩
  simp [nameAttribute?, hend, dropFront] at hn

theorem openTag?_eq_some_iff {line : List Char} {name : String} :
    openTag? line = some name ↔ OpensGroup line name := by
  simp only [openTag?, bind, Option.bind_eq_some_iff]
  constructor
  · rintro ⟨text, htext, h⟩
    obtain rfl := dropFront_eq_some_iff.mp htext
    split at h
    · rename_i name' hnamed
      cases h
      split at hnamed
      · rename_i hhead
        split at hnamed
        · rename_i hname
          split at hnamed
          · rename_i hend
            cases hnamed
            obtain ⟨gap, hgap, rfl⟩ := isTagEnd_iff.mp hend
            exact .named hhead (nameAttribute?_eq_some_iff.mp hname) hgap
          · cases hnamed
        · cases hnamed
      · cases hnamed
    · split at h
      · rename_i hend
        cases h
        obtain ⟨gap, hgap, rfl⟩ := isTagEnd_iff.mp hend
        exact .bare hgap
      · cases h
  · rintro (⟨hgap⟩ | ⟨hhead, hname, hgap⟩)
    · refine ⟨_, dropFront_eq_some_iff.mpr rfl, ?_⟩
      have hnone : nameAttribute? (_ ++ ['>']) = none :=
        Option.eq_none_iff_forall_ne_some.mpr fun _ hn =>
          not_namesGroup_gap hgap (nameAttribute?_eq_some_iff.mp hn)
      rw [hnone, isTagEnd_iff.mpr ⟨_, hgap, rfl⟩]
      simp
    · refine ⟨_, dropFront_eq_some_iff.mpr rfl, ?_⟩
      rw [nameAttribute?_eq_some_iff.mpr hname, if_pos hhead]
      simp [isTagEnd_iff.mpr ⟨_, hgap, rfl⟩]

/-! ## Marks -/

/-- What a line of a template is. -/
inductive Mark
  | opening (name : String)
  | closing
  | pattern (line : List Char)
  deriving DecidableEq, Repr, Inhabited

namespace Mark

def ofLine (line : List Char) : Mark :=
  match openTag? line with
  | some name => .opening name
  | none => if line = closeTag then .closing else .pattern line

/-- The line is such a mark. -/
inductive IsLine : List Char → Mark → Prop
  | opening {line : List Char} {name : String} : OpensGroup line name → IsLine line (.opening name)
  | closing : IsLine "</group>".toList .closing
  | pattern {line : List Char} : (∀ name, ¬ OpensGroup line name) → line ≠ "</group>".toList →
      IsLine line (.pattern line)

theorem openTag?_closeTag : openTag? closeTag = none := by decide

theorem ofLine_eq_iff {line : List Char} {m : Mark} : ofLine line = m ↔ IsLine line m := by
  unfold ofLine
  split
  · rename_i name hopen
    have hopens := openTag?_eq_some_iff.mp hopen
    constructor
    · rintro rfl
      exact .opening hopens
    · rintro (h | _ | ⟨hnot, _⟩)
      · rw [Option.some.inj (hopen.symm.trans (openTag?_eq_some_iff.mpr h))]
      · cases hopen.symm.trans openTag?_closeTag
      · exact absurd hopens (hnot name)
  · rename_i hopen
    have hopens : ∀ name, ¬ OpensGroup line name := fun name h => by
      rw [openTag?_eq_some_iff.mpr h] at hopen
      cases hopen
    split
    · rename_i hclose
      subst hclose
      constructor
      · rintro rfl
        exact .closing
      · rintro (h | _ | ⟨_, hnot⟩)
        · exact absurd h (hopens _)
        · rfl
        · exact absurd rfl hnot
    · rename_i hclose
      constructor
      · rintro rfl
        exact .pattern hopens hclose
      · rintro (h | _ | _)
        · exact absurd h (hopens _)
        · exact absurd rfl hclose
        · rfl

def isTag : Mark → Bool
  | .pattern _ => false
  | _ => true

end Mark

/-- The marks of the lines of a template that are not blank. -/
def marks (source : List Char) : List Mark :=
  (((lines source).map trim).filter (!·.isEmpty)).map Mark.ofLine

/-- The pattern lines of a template, in order. -/
@[simp]
def patternLines : List Mark → List (List Char)
  | [] => []
  | .pattern line :: rest => line :: patternLines rest
  | .opening _ :: rest | .closing :: rest => patternLines rest

@[simp]
theorem patternLines_append (ms ms' : List Mark) :
    patternLines (ms ++ ms') = patternLines ms ++ patternLines ms' := by
  fun_induction patternLines ms <;> simp [*]

@[simp]
theorem patternLines_map (texts : List (List Char)) :
    patternLines (texts.map .pattern) = texts := by
  induction texts with
  | nil => rfl
  | cons text rest ih => simp [ih]

/-- Opening and closing tags take turns, the first one opens and the last one closes. -/
def Alternate (ms : List Mark) : Prop :=
  ∃ names : List String, ms.filter Mark.isTag = names.flatMap fun name => [.opening name, .closing]

/-! ## Reading marks -/

/-- How a draft grows with the marks of a template. -/
inductive Reads : Draft → List Mark → Draft → Prop
  | done (d : Draft) : Reads d [] d
  | opening {d d' : Draft} {ms : List Mark} (name : String) : d.current = none →
      Reads { d with current := some ⟨name, []⟩ } ms d' → Reads d (.opening name :: ms) d'
  | closing {d d' : Draft} {ms : List Mark} {g : Group} : d.current = some g →
      Reads { d with closed := d.closed ++ [g], current := none } ms d' → Reads d (.closing :: ms) d'
  | pattern {d d' : Draft} {ms : List Mark} {line : List Char} {l : Line} :
      Line.compile line = .ok l → Reads (d.addLine l) ms d' → Reads d (.pattern line :: ms) d'

theorem reads_cons_iff {d d' : Draft} {number : Nat} {line : List Char} {ms : List Mark} :
    (∃ d₁, d.readLine number line = .ok d₁ ∧ Reads d₁ ms d') ↔
      Reads d (Mark.ofLine line :: ms) d' := by
  unfold Draft.readLine Mark.ofLine
  cases hopen : openTag? line with
  | some name =>
    simp only
    constructor
    · rintro ⟨d₁, h, hreads⟩
      split at h
      · cases h
      · rename_i hnone
        cases h
        exact .opening name (by simpa using hnone) hreads
    · rintro (_ | ⟨_, hnone, hreads⟩)
      exact ⟨_, by simp [hnone], hreads⟩
  | none =>
    by_cases hclose : line = closeTag
    · simp only [hclose, if_true]
      constructor
      · rintro ⟨d₁, h, hreads⟩
        split at h
        · rename_i g hg
          cases h
          exact .closing hg hreads
        · cases h
      · rintro (_ | _ | ⟨hg, hreads⟩)
        exact ⟨_, by simp [hg], hreads⟩
    · simp only [hclose, if_false]
      constructor
      · rintro ⟨d₁, h, hreads⟩
        split at h
        · rename_i l hl
          cases h
          exact .pattern hl hreads
        · cases h
      · rintro (_ | _ | _ | ⟨hl, hreads⟩)
        exact ⟨_, by rw [hl], hreads⟩

theorem readLines_iff {numbered : List (Nat × List Char)} {d' : Draft} :
    ∀ {d : Draft}, d.readLines numbered = .ok d' ↔
      Reads d (((numbered.map fun p => trim p.2).filter (!·.isEmpty)).map Mark.ofLine) d' := by
  induction numbered with
  | nil =>
    intro d
    constructor
    · intro h
      cases h
      exact .done _
    · rintro ⟨⟩
      rfl
  | cons p rest ih =>
    intro d
    obtain ⟨number, raw⟩ := p
    rw [Draft.readLines]
    by_cases hblank : (trim raw).isEmpty = true
    · simp [hblank, ih]
    · simp only [hblank, Bool.false_eq_true, if_false, bind_eq_ok_iff, ih, List.map_cons,
        Bool.not_false, List.filter_cons, if_true]
      exact reads_cons_iff

/-! ## Parts -/

/-- A block of a template with the lines between its tags. -/
structure Block where
  name : String
  lines : List (List Char)
  deriving DecidableEq, Repr, Inhabited

/-- A part of a template: a pattern line outside of any block, or a block. -/
inductive Part
  | line (text : List Char)
  | block (b : Block)
  deriving DecidableEq, Repr, Inhabited

@[simp]
def Part.marks : Part → List Mark
  | line text => [.pattern text]
  | block b => .opening b.name :: (b.lines.map .pattern ++ [.closing])

/-- The lines outside of any block. -/
@[simp]
def looseLines : List Part → List (List Char)
  | [] => []
  | .line text :: rest => text :: looseLines rest
  | .block _ :: rest => looseLines rest

/-- The blocks that are written as such. -/
@[simp]
def taggedBlocks : List Part → List Block
  | [] => []
  | .line _ :: rest => taggedBlocks rest
  | .block b :: rest => b :: taggedBlocks rest

/-- The lines outside of any block come first, under a name of their own, if there are any. -/
def blocksOf (parts : List Part) : List Block :=
  (if looseLines parts = [] then [] else [⟨anonymousName, looseLines parts⟩]) ++ taggedBlocks parts

theorem alternate_parts (parts : List Part) : Alternate (parts.flatMap Part.marks) := by
  refine ⟨(taggedBlocks parts).map (·.name), ?_⟩
  induction parts with
  | nil => rfl
  | cons p rest ih =>
    rw [List.flatMap_cons, List.filter_append, ih]
    cases p with
    | line text => rfl
    | block b => simp [List.filter_cons, List.filter_map, Function.comp_def, Mark.isTag]

/-- No pattern line is lost, and none counts twice. -/
theorem lines_blocksOf (parts : List Part) :
    ((blocksOf parts).flatMap (·.lines)).Perm (patternLines (parts.flatMap Part.marks)) := by
  have hblocks : (blocksOf parts).flatMap (·.lines) =
      looseLines parts ++ (taggedBlocks parts).flatMap (·.lines) := by
    by_cases hloose : looseLines parts = [] <;> simp [blocksOf, hloose]
  rw [hblocks]
  clear hblocks
  induction parts with
  | nil => rfl
  | cons p rest ih =>
    cases p with
    | line text => simpa using ih
    | block b =>
      have hfront : (looseLines rest ++ (b.lines ++ (taggedBlocks rest).flatMap (·.lines))).Perm
          (b.lines ++ (looseLines rest ++ (taggedBlocks rest).flatMap (·.lines))) := by
        rw [← List.append_assoc, ← List.append_assoc]
        exact List.perm_append_comm.append_right _
      simpa using hfront.trans (ih.append_left _)

/-- The group of a block: each of its lines is compiled. -/
structure Block.Compiles (b : Block) (g : Group) : Prop where
  name : g.name = b.name
  lines : List.Forall₂ (fun text l => Line.compile text = .ok l) b.lines g.lines

/-- A draft gains the groups of the blocks and the lines that stand outside of any. -/
structure Gains (d : Draft) (parts : List Part) (d' : Draft) : Prop where
  closed : ∃ gs, d'.closed = d.closed ++ gs ∧
    List.Forall₂ Block.Compiles (taggedBlocks parts) gs
  loose : ∃ ls, d'.loose = d.loose ++ ls ∧
    List.Forall₂ (fun text l => Line.compile text = .ok l) (looseLines parts) ls

/-- What is read up to the end outside of any block are parts; inside of a block it is first the
rest of the block. -/
theorem Reads.parts {d d' : Draft} {ms : List Mark} (h : Reads d ms d')
    (hend : d'.current = none) :
    (d.current = none → ∃ parts, ms = parts.flatMap Part.marks ∧ Gains d parts d') ∧
    ∀ g, d.current = some g → ∃ texts ls parts,
      ms = texts.map .pattern ++ .closing :: parts.flatMap Part.marks ∧
      List.Forall₂ (fun text l => Line.compile text = .ok l) texts ls ∧
      Gains { d with closed := d.closed ++ [{ g with lines := g.lines ++ ls }], current := none }
        parts d' := by
  induction h with
  | done d =>
    refine ⟨fun _ => ⟨[], rfl, ⟨[], by simp, .nil⟩, ⟨[], by simp, .nil⟩⟩, fun g hg => ?_⟩
    cases hend.symm.trans hg
  | opening name hnone _ ih =>
    refine ⟨fun _ => ?_, fun g hg => ?_⟩
    · obtain ⟨texts, ls, parts, rfl, hls, ⟨gs, hclosed, hgs⟩, hloose⟩ := (ih hend).2 _ rfl
      refine ⟨.block ⟨name, texts⟩ :: parts, by simp, ⟨⟨name, ls⟩ :: gs, ?_, ?_⟩, hloose⟩
      · simpa using hclosed
      · exact .cons ⟨rfl, hls⟩ hgs
    · cases hnone.symm.trans hg
  | @closing d d' ms g hg _ ih =>
    refine ⟨fun hnone => ?_, fun g' hg' => ?_⟩
    · cases hnone.symm.trans hg
    · cases hg.symm.trans hg'
      obtain ⟨parts, rfl, hgains⟩ := (ih hend).1 rfl
      exact ⟨[], [], parts, rfl, .nil, by simpa using hgains⟩
  | @pattern d d' ms text l hl _ ih =>
    refine ⟨fun hnone => ?_, fun g hg => ?_⟩
    · obtain ⟨parts, rfl, hclosed, ls, hloose, hls⟩ := (ih hend).1 (by simp [Draft.addLine, hnone])
      refine ⟨.line text :: parts, rfl, ?_, ⟨l :: ls, ?_, .cons hl hls⟩⟩
      · simpa [Draft.addLine, hnone] using hclosed
      · simpa [Draft.addLine, hnone] using hloose
    · obtain ⟨texts, ls, parts, rfl, hls, hgains⟩ :=
        (ih hend).2 { g with lines := g.lines ++ [l] } (by simp [Draft.addLine, hg])
      refine ⟨text :: texts, l :: ls, parts, rfl, .cons hl hls, ?_⟩
      simpa [Draft.addLine, hg] using hgains

/-- Tags that take turns can be read if every pattern line compiles. -/
theorem exists_reads {ms : List Mark}
    (hlines : ∀ text ∈ patternLines ms, ∃ l, Line.compile text = .ok l) :
    ∀ {d : Draft} {names : List String},
      ms.filter Mark.isTag = (if d.current = none then [] else [.closing]) ++
        names.flatMap (fun name => [.opening name, .closing]) →
      ∃ d', Reads d ms d' ∧ d'.current = none := by
  induction ms with
  | nil =>
    intro d names htags
    refine ⟨d, .done d, ?_⟩
    by_contra hopen
    simp [hopen] at htags
  | cons m rest ih =>
    intro d names htags
    have hrest : ∀ text ∈ patternLines rest, ∃ l, Line.compile text = .ok l := by
      intro text htext
      cases m <;> exact hlines text (by simp [htext])
    cases m with
    | opening name =>
      rw [List.filter_cons_of_pos rfl] at htags
      split at htags
      · rename_i hnone
        obtain _ | ⟨name', names⟩ := names
        · cases htags
        · obtain ⟨rfl, htags⟩ : name = name' ∧ _ = _ := by simpa using htags
          obtain ⟨d', hreads, hend⟩ := @ih hrest { d with current := some ⟨name, []⟩ } names
            (by simpa using htags)
          exact ⟨d', .opening name hnone hreads, hend⟩
      · cases htags
    | closing =>
      rw [List.filter_cons_of_pos rfl] at htags
      split at htags
      · obtain _ | ⟨name', names⟩ := names
        · cases htags
        · cases htags
      · rename_i hopen
        obtain ⟨g, hg⟩ := Option.ne_none_iff_exists'.mp hopen
        obtain ⟨d', hreads, hend⟩ := @ih hrest
          { d with closed := d.closed ++ [g], current := none } names (by simpa using htags)
        exact ⟨d', .closing hg hreads, hend⟩
    | pattern text =>
      obtain ⟨l, hl⟩ := hlines text (by simp)
      have hopen : (d.addLine l).current = none ↔ d.current = none := by
        unfold Draft.addLine
        split <;> simp [*]
      obtain ⟨d', hreads, hend⟩ := @ih hrest (d.addLine l) names
        (by simpa [Mark.isTag, hopen] using htags)
      exact ⟨d', .pattern hl hreads, hend⟩

/-! ## Headers -/

/-- The variables of a pattern line, in order. -/
def variablesOf (line : List Char) : List String :=
  (segmentsOf line).filterMap fun
    | .literal _ => none
    | .placeholder body => (splitPipes body).head?.map String.ofList

theorem applyItems_name {items : List (List Char)} :
    ∀ {v v' : Variable} {regex regex' : String}, applyItems v regex items = .ok (v', regex') →
      v'.name = v.name := by
  induction items with
  | nil =>
    intro v v' regex regex' h
    cases h
    rfl
  | cons item rest ih =>
    intro v v' regex regex' h
    rw [applyItems] at h
    split at h
    · exact ih (v := { v with toInt := true }) h
    · split at h
      · exact ih h
      · split at h
        · exact ih h
        · cases h

theorem Variable.parse_name {body : List Char} {v : Variable} {regex : String}
    (h : Variable.parse body = .ok (v, regex)) :
    (splitPipes body).head?.map String.ofList = some v.name := by
  unfold Variable.parse at h
  split at h
  · cases h
  · split at h
    · simp [*, applyItems_name h]
    · cases h

theorem assemble_names {segs : List Segment} :
    ∀ {count : Nat} {pattern : List Char} {targets : List Variable},
      assemble count segs = .ok (pattern, targets) →
      targets.map (·.name) = segs.filterMap fun
        | .literal _ => none
        | .placeholder body => (splitPipes body).head?.map String.ofList := by
  induction segs with
  | nil =>
    intro count pattern targets h
    cases h
    rfl
  | cons seg rest ih =>
    intro count pattern targets h
    cases seg with
    | literal text =>
      obtain ⟨_, hrest, h⟩ := bind_eq_ok_iff.mp h
      cases h
      exact ih hrest
    | placeholder body =>
      obtain ⟨_, hv, h⟩ := bind_eq_ok_iff.mp h
      obtain ⟨_, hrest, h⟩ := bind_eq_ok_iff.mp h
      cases h
      simp [Variable.parse_name hv, ih hrest]

theorem Line.compile_names {line : List Char} {l : Line} (h : Line.compile line = .ok l) :
    l.targets.map (·.name) = variablesOf line := by
  unfold Line.compile at h
  split at h
  · cases h
  · rename_i hassemble
    split at h
    · cases h
    · cases h
      exact assemble_names hassemble

theorem lines_names {texts : List (List Char)} {ls : List Line}
    (h : List.Forall₂ (fun text l => Line.compile text = .ok l) texts ls) :
    (ls.flatMap fun l => l.targets.map (·.name)) = texts.flatMap variablesOf := by
  induction h with
  | nil => rfl
  | cons hl _ ih => simp [ih, Line.compile_names hl]

theorem groups_names {bs : List Block} {gs : List Group} (h : List.Forall₂ Block.Compiles bs gs) :
    (gs.flatMap fun g => g.lines.flatMap fun l => l.targets.map (·.name)) =
      bs.flatMap fun b => b.lines.flatMap variablesOf := by
  induction h with
  | nil => rfl
  | cons hb _ ih => simp [ih, lines_names hb.lines]

/-- Names can be dropped before or after the doubles are. -/
theorem distinct_filter (p : String → Bool) (names : List String) :
    distinct (names.filter p) = (distinct names).filter p := by
  induction names with
  | nil => rfl
  | cons n rest ih =>
    rw [distinct]
    by_cases hn : p n = true
    · rw [List.filter_cons_of_pos hn, List.filter_cons_of_pos hn, distinct, ih, List.filter_comm]
    · rw [List.filter_cons_of_neg hn, List.filter_cons_of_neg hn, ih, List.filter_filter]
      refine List.filter_congr fun m _ => ?_
      by_cases hm : m = n
      · simp [hm, hn]
      · simp [hm]

theorem distinct_eq_eraseDups : ∀ names : List String, distinct names = names.eraseDups
  | [] => rfl
  | n :: rest => by
    have ih := distinct_eq_eraseDups (rest.filter fun m => !m == n)
    rw [List.eraseDups_cons, ← ih, distinct_filter, distinct]
    rfl
  termination_by names => names.length
  decreasing_by exact Nat.lt_succ_of_le (List.length_filter_le _ _)

/-! ## Columns -/

section
variable {header : List String} {row : List Json} {captured : List (String × Json)}

theorem fill_cons {name : String} (hname : name ∈ header) (value : Json) :
    fill header row ((name, value) :: captured) =
      fill header (row.set (header.idxOf name) value) captured := by
  have hcolumn : header.findIdx? (· == name) = some (header.idxOf name) :=
    List.findIdx?_eq_some_of_exists ⟨name, hname, by simp⟩
  simp [fill, hcolumn]

theorem length_fill (row : List Json) (captured : List (String × Json)) :
    (fill header row captured).length = row.length := by
  induction captured generalizing row with
  | nil => rfl
  | cons c rest ih =>
    refine (ih _).trans ?_
    dsimp only
    split <;> simp

/-- A capture does not touch the columns of other variables. -/
theorem fill_getElem?_other (hcaptured : ∀ c ∈ captured, c.1 ∈ header) {name : String}
    (hnot : name ∉ captured.map (·.1)) :
    (fill header row captured)[header.idxOf name]? = row[header.idxOf name]? := by
  induction captured generalizing row with
  | nil => rfl
  | cons c rest ih =>
    obtain ⟨other, value⟩ := c
    have hother : other ∈ header := hcaptured (other, value) (by simp)
    rw [List.map_cons, List.mem_cons, not_or] at hnot
    have hcolumn : header.idxOf other ≠ header.idxOf name := fun he =>
      hnot.1 ((List.idxOf_inj hother).mp he).symm
    rw [fill_cons hother, ih (fun c hc => hcaptured c (by simp [hc])) hnot.2,
      List.getElem?_set_ne hcolumn]

/-- No capture is lost: each has a column, which takes the last value of its variable and is not
touched by the others. -/
structure Keeps (header : List String) (captured : List (String × Json)) : Prop where
  columns : ∀ c ∈ captured, c.1 ∈ header
  length : ∀ row, (fill header row captured).length = row.length
  written : ∀ row, row.length = header.length → ∀ front name value back,
    captured = front ++ (name, value) :: back → name ∉ back.map (·.1) →
    (fill header row captured)[header.idxOf name]? = some value
  others : ∀ row, ∀ name ∉ captured.map (·.1),
    (fill header row captured)[header.idxOf name]? = row[header.idxOf name]?

theorem fill_keeps (hcaptured : ∀ c ∈ captured, c.1 ∈ header) : Keeps header captured where
  columns := hcaptured
  length row := length_fill row captured
  written row hrow front name value back hc hlast := by
    subst hc
    have hname : name ∈ header := hcaptured (name, value) (by simp)
    rw [fill_append, fill_cons hname,
      fill_getElem?_other (fun c hc => hcaptured c (by simp [hc])) hlast, List.getElem?_set_self]
    rw [length_fill, hrow]
    exact List.idxOf_lt_length_iff.mpr hname
  others _ _ hnot := fill_getElem?_other hcaptured hnot

theorem length_of_mem_collect (first : Line) (others : List Line) (text : List (List Char)) :
    ∀ pending : Option (List Json), (∀ row ∈ pending, row.length = header.length) →
      ∀ row ∈ collect header first others pending text, row.length = header.length := by
  induction text with
  | nil =>
    intro pending hpending row hrow
    exact hpending row (by simpa [collect] using hrow)
  | cons line rest ih =>
    intro pending hpending row hrow
    rw [collect] at hrow
    split at hrow
    · rcases List.mem_append.mp hrow with hrow | hrow
      · exact hpending row (by simpa using hrow)
      · refine ih _ (fun row hrow => ?_) row hrow
        rw [← Option.some.inj hrow, length_fill]
        simp [emptyRow]
    · refine ih _ (fun row hrow => ?_) row hrow
      obtain ⟨row, hpend, rfl⟩ := Option.map_eq_some_iff.mp hrow
      rw [← hpending row hpend]
      split
      · exact length_fill _ _
      · rfl

/-- Every row has one cell for each column, also while it is written. -/
theorem length_of_mem_rows {g : Group} {text : List (List Char)} :
    ∀ row ∈ g.rows header text, row.length = header.length := by
  intro row hrow
  unfold Group.rows at hrow
  split at hrow
  · cases hrow
  · exact length_of_mem_collect _ _ text none (by simp) row hrow

end

theorem Line.mem_targets_of_captures {l : Line} {line : List Char}
    {captured : List (String × Json)} (h : l.captures line = some captured)
    {c : String × Json} (hc : c ∈ captured) : c.1 ∈ l.targets.map (·.name) := by
  obtain ⟨m, -, rfl⟩ := Option.map_eq_some_iff.mp h
  obtain ⟨⟨v, k⟩, hv, hc⟩ := List.mem_filterMap.mp hc
  obtain ⟨text, -, rfl⟩ := Option.map_eq_some_iff.mp hc
  exact List.mem_map_of_mem (List.fst_mem_of_mem_zipIdx hv)

/-! ## Templates -/

/-- The groups of a draft that is read to its end. -/
def Draft.groups (d : Draft) : List Group :=
  if d.loose.isEmpty then d.closed else ⟨anonymousName, d.loose⟩ :: d.closed

theorem ofDraft_eq_ok_iff {d : Draft} {t : Template} :
    Template.ofDraft d = .ok t ↔ d.current = none ∧ (∃ g ∈ d.groups, g.lines ≠ []) ∧
      t = ⟨d.groups, Template.headerOf d.groups⟩ := by
  have hsome : (∃ g ∈ d.groups, g.lines ≠ []) ↔ ¬ d.groups.all (·.lines.isEmpty) = true := by
    simp
  rw [hsome]
  unfold Template.ofDraft
  cases hopen : d.current with
  | some g => simp
  | none =>
    change (if d.groups.all (·.lines.isEmpty) = true then Except.error _ else Except.ok _) = _ ↔ _
    by_cases hempty : d.groups.all (·.lines.isEmpty) = true
    · simp [hempty]
    · rw [if_neg hempty, Except.ok.injEq]
      simp only [hempty, Bool.false_eq_true, not_false_eq_true, true_and]
      exact eq_comm

/-- Lines with their numbers, whichever of both comes first. -/
theorem map_numbered_trim {number : List Char × Nat → Nat × List Char}
    (hnumber : ∀ p, (number p).2 = p.1) (ls : List (List Char)) (n : Nat) :
    ((ls.zipIdx n).map number).map (fun p => trim p.2) = ls.map trim := by
  conv_rhs => rw [← List.zipIdx_map_fst n ls, List.map_map]
  rw [List.map_map]
  exact List.map_congr_left fun p _ => congrArg trim (hnumber p)

theorem compile_eq_ok_iff {source : String} {t : Template} :
    Template.compile source = .ok t ↔ ∃ d, Reads {} (marks source.toList) d ∧ d.current = none ∧
      (∃ g ∈ d.groups, g.lines ≠ []) ∧ t = ⟨d.groups, Template.headerOf d.groups⟩ := by
  simp only [Template.compile, bind_eq_ok_iff, readLines_iff, ofDraft_eq_ok_iff, marks]
  rw [map_numbered_trim]
  exact fun _ => rfl

theorem exists_of_forall₂ {α β : Type} {R : α → β → Prop} {as : List α} {bs : List β}
    (h : List.Forall₂ R as bs) : ∀ a ∈ as, ∃ b ∈ bs, R a b := by
  induction h with
  | nil => simp
  | cons hab _ ih =>
    rintro a (_ | ⟨_, ha⟩)
    · exact ⟨_, by simp, hab⟩
    · obtain ⟨b, hb, hr⟩ := ih a ha
      exact ⟨b, by simp [hb], hr⟩

/-- The groups of what has been gained from nothing. -/
theorem Gains.groups {parts : List Part} {d : Draft} (h : Gains {} parts d) :
    List.Forall₂ Block.Compiles (blocksOf parts) d.groups := by
  obtain ⟨⟨gs, hclosed, hgs⟩, ls, hloose, hls⟩ := h
  rw [List.nil_append] at hclosed hloose
  unfold blocksOf Draft.groups
  rw [hclosed, hloose]
  generalize looseLines parts = loose at hls
  cases hls with
  | nil => exact hgs
  | cons hl hls => exact .cons ⟨rfl, .cons hl hls⟩ hgs

/-- A group has lines if its block has some. -/
theorem lines_ne_nil_iff {bs : List Block} {gs : List Group}
    (h : List.Forall₂ Block.Compiles bs gs) :
    (∃ g ∈ gs, g.lines ≠ []) ↔ bs.flatMap (·.lines) ≠ [] := by
  induction h with
  | nil => simp
  | @cons b g bs gs hb _ ih =>
    have hsame : g.lines = [] ↔ b.lines = [] := by
      rw [← List.length_eq_zero_iff, ← List.length_eq_zero_iff, hb.lines.length_eq]
    rw [List.flatMap_cons, Ne, List.append_eq_nil_iff, not_and_or, ← hsame, ← ne_eq (bs.flatMap _), ← ih]
    simp

theorem compiles_of_groups {parts : List Part} {gs : List Group}
    (h : List.Forall₂ Block.Compiles (blocksOf parts) gs) :
    ∀ text ∈ patternLines (parts.flatMap Part.marks), ∃ l, Line.compile text = .ok l := by
  intro text htext
  obtain ⟨b, hb, htext⟩ := List.mem_flatMap.mp ((lines_blocksOf parts).mem_iff.mpr htext)
  obtain ⟨g, -, hg⟩ := exists_of_forall₂ h b hb
  obtain ⟨l, -, hl⟩ := exists_of_forall₂ hg.lines text htext
  exact ⟨l, hl⟩

/-- **Blocks of a template.** A template compiles if its tags open and close groups in turn, if each
pattern line compiles, and if there is one. It is then a sequence of parts, whose blocks are its
groups, the lines outside of any block first; no pattern line is lost and none counts twice. The
header has the variables of the groups, each one once and where it comes first, so that no group
loses a capture. -/
theorem compile_blocks (source : String) :
    (∀ line m, Mark.ofLine line = m ↔ Mark.IsLine line m) ∧
    ((∃ t, Template.compile source = .ok t) ↔
      Alternate (marks source.toList) ∧
      (∀ text ∈ patternLines (marks source.toList), ∃ l, Line.compile text = .ok l) ∧
      patternLines (marks source.toList) ≠ []) ∧
    ∀ t, Template.compile source = .ok t → ∃ parts : List Part,
      marks source.toList = parts.flatMap Part.marks ∧
      List.Forall₂ Block.Compiles (blocksOf parts) t.groups ∧
      ((blocksOf parts).flatMap (·.lines)).Perm (patternLines (marks source.toList)) ∧
      t.header = ((blocksOf parts).flatMap fun b => b.lines.flatMap variablesOf).eraseDups ∧
      (∀ g ∈ t.groups, ∀ l ∈ g.lines, ∀ line captured, l.captures line = some captured →
        Keeps t.header captured) ∧
      ∀ g ∈ t.groups, ∀ text, ∀ row ∈ g.rows t.header text, row.length = t.header.length := by
  refine ⟨fun line m => Mark.ofLine_eq_iff, ⟨?_, ?_⟩, ?_⟩
  · rintro ⟨t, h⟩
    obtain ⟨d, hreads, hend, hlines, -⟩ := compile_eq_ok_iff.mp h
    obtain ⟨parts, hparts, hgains⟩ := (hreads.parts hend).1 rfl
    rw [hparts]
    refine ⟨alternate_parts parts, compiles_of_groups hgains.groups, ?_⟩
    intro hnone
    refine (lines_ne_nil_iff hgains.groups).mp hlines ?_
    rw [← List.perm_nil, ← hnone]
    exact lines_blocksOf parts
  · rintro ⟨⟨names, htags⟩, hcompiles, hne⟩
    obtain ⟨d, hreads, hend⟩ := exists_reads hcompiles (d := {}) htags
    obtain ⟨parts, hparts, hgains⟩ := (hreads.parts hend).1 rfl
    refine ⟨_, compile_eq_ok_iff.mpr ⟨d, hreads, hend, (lines_ne_nil_iff hgains.groups).mpr ?_, rfl⟩⟩
    rw [hparts] at hne
    exact fun hnone => hne (List.perm_nil.mp (hnone ▸ (lines_blocksOf parts).symm))
  · intro t h
    obtain ⟨d, hreads, hend, -, rfl⟩ := compile_eq_ok_iff.mp h
    obtain ⟨parts, hparts, hgains⟩ := (hreads.parts hend).1 rfl
    have hheader : Template.headerOf d.groups =
        ((blocksOf parts).flatMap fun b => b.lines.flatMap variablesOf).eraseDups := by
      rw [Template.headerOf, distinct_eq_eraseDups, groups_names hgains.groups]
    refine ⟨parts, hparts, hgains.groups, ?_, hheader, ?_, fun g _ text => length_of_mem_rows⟩
    · rw [hparts]
      exact lines_blocksOf parts
    · intro g hg l hl line captured hcaptures
      refine fill_keeps fun c hc => ?_
      dsimp only
      rw [Template.headerOf, distinct_eq_eraseDups, List.mem_eraseDups]
      exact List.mem_flatMap.mpr ⟨g, hg, List.mem_flatMap.mpr
        ⟨l, hl, Line.mem_targets_of_captures hcaptures hc⟩⟩

/-- A line before the first block and one between two blocks, which share a column. -/
def siteNotes : String :=
  "site {{ site }}\n<group name=\"ports\">\nport {{ port }} vlan {{ vlan }}\n</group>\n\n" ++
    "note {{ note }} for {{ site }}\n<group >\nmac {{ mac }} on {{ port }}\n</group>\n"

theorem compile_blocks_siteNotes :
    ∃ t, Template.compile siteNotes = .ok t ∧
      t.groupNames = ["_anonymous_", "ports", "_anonymous_"] ∧
      t.header = ["site", "note", "port", "vlan", "mac"] ∧
      ∀ g ∈ t.groups, ∀ l ∈ g.lines, ∀ line captured, l.captures line = some captured →
        Keeps t.header captured := by
  obtain ⟨t, ht, hnames, hheader⟩ : ∃ t, Template.compile siteNotes = .ok t ∧
      t.groupNames = ["_anonymous_", "ports", "_anonymous_"] ∧
      t.header = ["site", "note", "port", "vlan", "mac"] := exists_ok (by decide +kernel)
  obtain ⟨parts, -, -, -, -, hkeeps, -⟩ := (compile_blocks siteNotes).2.2 t ht
  exact ⟨t, ht, hnames, hheader, hkeeps⟩

end TemplateBench.Ttp
