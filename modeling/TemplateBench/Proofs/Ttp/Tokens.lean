import Mathlib.Data.List.Forall2
import TemplateBench.Proofs.Regex.Numbering
import TemplateBench.Proofs.Regex.Parts
import TemplateBench.Proofs.Text.Blanks
import TemplateBench.Proofs.Text.Searches
import TemplateBench.Proofs.Ttp.WholeLine
import TemplateBench.Proofs.Ttp.Words

/-!
Pattern lines made of literal words and bare placeholders.

* `WrittenTokens`: such tokens, spelled out with spaces and tabs between them.
* `compile_written`: the line compiles to a pattern that is put together token by token.
* `takes_lineParts_iff`: that pattern reads a text word by word.
* `compile_tokens`: so a line matches if the words of its input fit its tokens, and gives the words
  in the places of the placeholders.
-/
namespace TemplateBench.Ttp
open Text

/-! ## Tokens -/

inductive Token
  | literal (text : List Char)
  | placeholder (name : String)
  deriving DecidableEq

/-- A text that a placeholder without indicators can take. -/
def IsValue (w : List Char) : Prop := w ≠ [] ∧ ∀ c ∈ w, isBlank c = false

instance (w : List Char) : Decidable (IsValue w) :=
  @instDecidableAnd _ _ inferInstance (List.decidableBAll (fun c => isBlank c = false) w)

namespace Token

/-- How a token is written. -/
inductive Spells : Token → List Char → Prop
  | literal {text : List Char} : IsWord text → ¬ ['\x7b', '\x7b'] <:+: text →
      Spells (.literal text) text
  | placeholder {name : String} {gap gap' : List Char} : isVariableName name.toList = true →
      Blanks gap → Blanks gap' →
      Spells (.placeholder name)
        ('\x7b' :: '\x7b' :: (gap ++ (name.toList ++ (gap' ++ ['\x7d', '\x7d']))))

/-- The words of an input line that a token stands for. -/
def Fits : Token → List Char → Prop
  | .literal text, w => w = text
  | .placeholder _, w => IsValue w

def targets : Token → List Variable
  | .literal _ => []
  | .placeholder name => [⟨name, false⟩]

/-- The word that a token captures. -/
def taken : Token → List Char → List (List Char)
  | .literal _, _ => []
  | .placeholder _, w => [w]

/-- The parts of the expression of a token behind `k` placeholders. -/
def parts (k : Nat) : Token → List Regex.Part
  | .literal text => text.map .char
  | .placeholder _ => [.word (groupName k)]

end Token

/-- A line of tokens with spaces and tabs between each two. -/
inductive WrittenTokens : List Token → List Char → Prop
  | last {t : Token} {front : List Char} : t.Spells front → WrittenTokens [t] front
  | cons {t : Token} {tokens : List Token} {front gap rest : List Char} : t.Spells front →
      gap ≠ [] → IsPadding gap → WrittenTokens tokens rest →
      WrittenTokens (t :: tokens) (front ++ (gap ++ rest))

def targetsOf (tokens : List Token) : List Variable := tokens.flatMap Token.targets

/-- The variables of tokens, each with the word in its place. -/
def pairs : List Token → List (List Char) → List (String × Json)
  | .literal _ :: tokens, _ :: ws => pairs tokens ws
  | .placeholder name :: tokens, w :: ws => (name, .string (String.ofList w)) :: pairs tokens ws
  | _, _ => []

/-- The words of tokens with values in the places of the placeholders. -/
def placed : List Token → List (List Char) → List (List Char)
  | .literal text :: tokens, values => text :: placed tokens values
  | .placeholder _ :: tokens, w :: values => w :: placed tokens values
  | _, _ => []

/-- The words in the places of the placeholders. -/
def taken : List Token → List (List Char) → List (List Char)
  | t :: tokens, w :: ws => t.taken w ++ taken tokens ws
  | _, _ => []

/-- The parts of the expression of tokens behind `k` placeholders, with the blanks around them. -/
def lineParts (needed : Bool) (k : Nat) : List Token → List Regex.Part
  | [] => [.blanks false]
  | t :: tokens => .blanks needed :: (t.parts k ++ lineParts true (k + t.targets.length) tokens)

/-- The pattern of a line of tokens. -/
def linePattern (tokens : List Token) : Regex.Pattern :=
  Regex.behindStart (Regex.partsPattern (lineParts false 0 tokens))

/-! ## Placeholders -/

/-- The signs that end a placeholder or a piece of it. -/
def signs : List Char := ['|', '"', '\'', '\x7d', '\n']

theorem plain_of_isVariableName {name : List Char} (h : isVariableName name = true) :
    ∀ c ∈ name, isBlank c = false ∧ c ∉ signs := by
  intro c hc
  rw [isVariableName, Bool.and_eq_true, List.all_eq_true] at h
  have hname := h.2 c hc
  refine ⟨Bool.eq_false_iff.mpr fun hb => ?_, fun hm => ?_⟩
  · have hcodes : ∀ n ∈ blankCodes,
        (Char.ofNat n == '_' || isAsciiAlphanumeric (Char.ofNat n)) = false := by decide
    have hcode := hcodes c.toNat (toNat_mem_blankCodes hb)
    rw [Char.ofNat_toNat, hname] at hcode
    cases hcode
  · have hsigns : ∀ d ∈ signs, (!(d == '_' || isAsciiAlphanumeric d)) = true :=
      List.all_eq_true.mp (by decide)
    have hsign := hsigns c hm
    rw [hname] at hsign
    cases hsign

theorem plain_of_blanks {gap : List Char} (h : Blanks gap) : ∀ c ∈ gap, c ∉ signs := by
  intro c hc hm
  have hsigns : ∀ d ∈ signs, (!isBlank d || d == '\n') = true := List.all_eq_true.mp (by decide)
  obtain ⟨hblank, hline⟩ := h c hc
  have hsign := hsigns c hm
  rw [hblank] at hsign
  exact hline (beq_iff_eq.mp hsign)

theorem untilClose_append {body : List Char} (h : ∀ c ∈ body, c ∉ signs) (rest : List Char) :
    untilClose (body ++ '\x7d' :: '\x7d' :: rest) = some (body, rest) := by
  induction body with
  | nil => rfl
  | cons c body ih =>
    obtain ⟨hc, hbody⟩ := List.forall_mem_cons.mp h
    have hclose : c ≠ '\x7d' := by
      rintro rfl
      exact hc (by decide)
    have hend : c ≠ '\n' := by
      rintro rfl
      exact hc (by decide)
    rw [List.cons_append, untilClose, ih hbody]
    · rfl
    · rintro _ rfl
      exact absurd rfl hclose
    · exact hend

theorem splitPipesFrom_plain {body : List Char} (h : ∀ c ∈ body, c ∉ signs) :
    splitPipesFrom none body = [body] := by
  induction body with
  | nil => rfl
  | cons c body ih =>
    obtain ⟨hc, hbody⟩ := List.forall_mem_cons.mp h
    simp only [signs, List.mem_cons, not_or] at hc
    rw [splitPipesFrom, if_neg hc.1, if_neg (by simp [hc.2.1, hc.2.2.1]), ih hbody]

/-- A bare placeholder stands for characters that are not white space. -/
theorem parse_bare {name : String} {gap gap' : List Char}
    (hname : isVariableName name.toList = true) (hgap : Blanks gap) (hgap' : Blanks gap') :
    Variable.parse (gap ++ (name.toList ++ gap')) = .ok (⟨name, false⟩, "\\S+") := by
  have hplain := plain_of_isVariableName hname
  have hbody : ∀ c ∈ gap ++ (name.toList ++ gap'), c ∉ signs :=
    List.forall_mem_append.mpr ⟨plain_of_blanks hgap, List.forall_mem_append.mpr
      ⟨fun c hc => (hplain c hc).2, plain_of_blanks hgap'⟩⟩
  have htrim : trim (gap ++ (name.toList ++ gap')) = name.toList := by
    rw [trim, trimStart, List.dropWhile_append_of_pos fun c hc => (hgap c hc).1]
    cases hcs : name.toList with
    | nil =>
      rw [hcs] at hname
      cases hname
    | cons c cs =>
      rw [hcs] at hplain
      obtain ⟨hc, _⟩ := hplain c List.mem_cons_self
      rw [List.cons_append, List.dropWhile_cons_of_neg (by simp [hc]), ← List.cons_append,
        trimEnd_append_blanks _ hgap', trimEnd_eq_self fun d hd => (hplain d hd).1]
  rw [Variable.parse, splitPipes, splitPipesFrom_plain hbody, List.map_singleton, htrim]
  simp [hname, applyItems]

/-! ## The expression of a line -/

theorem literalFrom_word {word : List Char} (h : ∀ c ∈ word, isTabOrSpace c = false)
    (inBlanks : Bool) : literalFrom inBlanks word = word.flatMap escape := by
  induction word generalizing inBlanks with
  | nil => rfl
  | cons c word ih =>
    obtain ⟨hc, hword⟩ := List.forall_mem_cons.mp h
    rw [literalFrom, if_neg (by simp [hc]), ih hword]
    rfl

theorem literalFrom_append_word {word : List Char} (h : ∀ c ∈ word, isTabOrSpace c = false)
    (text : List Char) (inBlanks : Bool) :
    literalFrom inBlanks (text ++ word) = literalFrom inBlanks text ++ word.flatMap escape := by
  induction text generalizing inBlanks with
  | nil => exact literalFrom_word h inBlanks
  | cons c text ih =>
    rw [List.cons_append, literalFrom, literalFrom]
    split
    · rw [ih, List.append_assoc]
    · rw [ih, List.append_assoc]

theorem literalFrom_gap {gap : List Char} (h : IsPadding gap) : literalFrom true gap = [] := by
  induction gap with
  | nil => rfl
  | cons c gap ih =>
    obtain ⟨hc, hgap⟩ := List.forall_mem_cons.mp h
    rw [literalFrom, if_pos hc, if_pos rfl, ih hgap]
    rfl

/-- A run of spaces and tabs behind a word, or behind nothing, is one run in the expression. -/
theorem literalFrom_append_gap {gap : List Char} (h : IsPadding gap) (hne : gap ≠ [])
    (text : List Char) (inBlanks : Bool) (hstart : text = [] → inBlanks = false)
    (hend : ∀ c ∈ text.getLast?, isTabOrSpace c = false) :
    literalFrom inBlanks (text ++ gap) = literalFrom inBlanks text ++ "[\\t ]+".toList := by
  induction text generalizing inBlanks with
  | nil =>
    obtain ⟨c, gap, rfl⟩ := List.exists_cons_of_ne_nil hne
    obtain ⟨hc, hgap⟩ := List.forall_mem_cons.mp h
    have hgap' : literalFrom inBlanks (c :: gap) = "[\\t ]+".toList := by
      rw [literalFrom, if_pos hc, hstart rfl, literalFrom_gap hgap]
      rfl
    exact hgap'
  | cons c text ih =>
    have hend' : ∀ d ∈ text.getLast?, isTabOrSpace d = false := by
      intro d hd
      refine hend d ?_
      rw [List.getLast?_cons, hd]
      rfl
    rw [List.cons_append, literalFrom, literalFrom]
    split
    · rename_i hc
      have hnonempty : text = [] → true = false := by
        rintro rfl
        rw [hend c rfl] at hc
        cases hc
      rw [ih true hnonempty hend', List.append_assoc]
    · rw [ih false (fun _ => rfl) hend', List.append_assoc]

/-- Text without a double brace is read character by character. -/
theorem segments_skip {front rest : List Char}
    (h : ¬ ['\x7b', '\x7b'] <:+: front ++ rest.take 1) (text : List Char) (n : Nat) :
    segments text (front.length + n) (front ++ rest) = segments (front.reverse ++ text) n rest := by
  induction front generalizing text with
  | nil => simp
  | cons c front ih =>
    have hopen : ∀ more, c = '\x7b' → front ++ rest = '\x7b' :: more → False := by
      rintro more rfl hmore
      refine h (List.IsPrefix.isInfix ?_)
      cases front with
      | nil =>
        rw [List.nil_append] at hmore
        rw [hmore]
        exact List.prefix_refl _
      | cons d front =>
        obtain ⟨rfl, _⟩ := List.cons_eq_cons.mp hmore
        exact ⟨front ++ rest.take 1, rfl⟩
    have hfront : ¬ ['\x7b', '\x7b'] <:+: front ++ rest.take 1 := fun hm =>
      h (hm.trans (List.suffix_cons c _).isInfix)
    rw [List.length_cons, Nat.add_right_comm, List.cons_append, segments]
    · rw [ih hfront, List.reverse_cons, List.append_assoc]
      rfl
    · exact hopen

/-- The text of the expression of parts without the end of the line. -/
abbrev partText (parts : List Regex.Part) : List Char := parts.flatMap Regex.Part.text

theorem partText_chars (text : List Char) :
    partText (text.map .char) = text.flatMap escape := by
  rw [partText, List.flatMap_map]
  rfl

/-- A double brace does not reach from a word into the blanks behind it. -/
theorem not_infix_append_take {word rest : List Char} (h : ¬ ['\x7b', '\x7b'] <:+: word)
    (hrest : StartsBlank rest) : ¬ ['\x7b', '\x7b'] <:+: word ++ rest.take 1 := by
  cases rest with
  | nil => simpa using h
  | cons c rest =>
    intro hm
    have hc : c ∉ ['\x7b', '\x7b'] := by
      intro hc
      obtain rfl : c = '\x7b' := by simpa using hc
      cases hrest '\x7b' rfl
    rcases infix_append_cons hm hc with hm | hm
    · exact h hm
    · exact absurd hm.length_le (by simp)

/-- A token is read behind a literal text: it is added to that text or starts a new one, which the
text behind the token goes on with. -/
theorem exists_assemble_token {t : Token} {front rest : List Char} (h : t.Spells front)
    (hrest : StartsBlank rest) (text : List Char) {n k : Nat} (hn : (front ++ rest).length ≤ n) :
    ∃ text' m, rest.length ≤ m ∧ (∀ c ∈ text'.head?, isTabOrSpace c = false) ∧
      ∀ more targets, assemble (k + t.targets.length) (segments text' m rest) =
        .ok (literal text'.reverse ++ more, targets) →
        assemble k (segments text n (front ++ rest)) =
          .ok (literal text.reverse ++ (partText (t.parts k) ++ more), t.targets ++ targets) := by
  rw [List.length_append] at hn
  cases h with
  | literal hword hopen =>
    obtain ⟨m, rfl⟩ := Nat.exists_eq_add_of_le (Nat.le_of_add_right_le hn)
    refine ⟨front.reverse ++ text, m, by omega, ?_, fun more targets hmore => ?_⟩
    · intro c hc
      have hne : front.reverse ≠ [] := by simpa using hword.1
      rw [List.head?_append_of_ne_nil _ hne] at hc
      exact hword.2 c (List.mem_reverse.mp (List.mem_of_mem_head? hc))
    · have hmore' : assemble k (segments (front.reverse ++ text) m rest) =
          .ok (literal (front.reverse ++ text).reverse ++ more, targets) := hmore
      rw [segments_skip (not_infix_append_take hopen hrest), hmore', List.reverse_append,
        List.reverse_reverse, literal, literalFrom_append_word hword.2, List.append_assoc,
        Token.parts, partText_chars]
      rfl
  | @placeholder name gap gap' hname hgap hgap' =>
    obtain ⟨m, rfl⟩ : ∃ m, n = m + 1 := ⟨n - 1, by simp at hn; omega⟩
    have hbody : ∀ c ∈ gap ++ (name.toList ++ gap'), c ∉ signs :=
      List.forall_mem_append.mpr ⟨plain_of_blanks hgap, List.forall_mem_append.mpr
        ⟨fun c hc => (plain_of_isVariableName hname c hc).2, plain_of_blanks hgap'⟩⟩
    have hfront : '\x7b' :: '\x7b' :: (gap ++ (name.toList ++ (gap' ++ ['\x7d', '\x7d']))) ++ rest =
        '\x7b' :: '\x7b' :: ((gap ++ (name.toList ++ gap')) ++ '\x7d' :: '\x7d' :: rest) := by
      simp
    have hsegments : segments text (m + 1)
        ('\x7b' :: '\x7b' :: ((gap ++ (name.toList ++ gap')) ++ '\x7d' :: '\x7d' :: rest)) =
        .literal text.reverse :: .placeholder (gap ++ (name.toList ++ gap')) ::
          segments [] m rest := by
      rw [segments, untilClose_append hbody]
    -- The line is cut here, and what follows starts a literal text of its own.
    refine ⟨[], m, ?_, by simp, fun more targets hmore => ?_⟩
    · simp at hn
      omega
    · have hmore' : assemble (k + 1) (segments [] m rest) = .ok (more, targets) := hmore
      rw [hfront, hsegments, assemble, assemble, parse_bare hname hgap hgap']
      simp only [bind, Except.bind, hmore', pure, Except.pure]
      simp [partText, Token.parts, Regex.Part.text, Token.targets]

/-- **Expressions.** A line of tokens is read as their parts, with blanks between each two. -/
theorem exists_assemble_written {tokens : List Token} {line : List Char}
    (h : WrittenTokens tokens line) :
    ∀ (text : List Char) {n : Nat} (k : Nat), line.length ≤ n → ∃ pattern,
      assemble k (segments text n line) =
        .ok (literal text.reverse ++ pattern, targetsOf tokens) ∧
      ∀ needed, (Regex.Part.blanks needed).text ++ (pattern ++ (Regex.Part.blanks false).text) =
        partText (lineParts needed k tokens) := by
  induction h with
  | @last t front ht =>
    intro text n k hn
    have hstart : StartsBlank [] := by simp [StartsBlank]
    obtain ⟨text', m, _, _, hassemble⟩ := exists_assemble_token ht hstart (k := k) text
      (by simpa using hn)
    have hend : assemble (k + t.targets.length) (segments text' m []) =
        .ok (literal text'.reverse ++ [], []) := by
      cases m <;> simp [segments, assemble, bind, Except.bind, pure, Except.pure]
    have hall := hassemble [] [] hend
    rw [List.append_nil, List.append_nil, List.append_nil] at hall
    refine ⟨partText (t.parts k), ?_, fun needed => ?_⟩
    · rw [hall, targetsOf, List.flatMap_singleton]
    · simp [partText, lineParts]
  | @cons t tokens front gap rest ht hne hgap _ ih =>
    intro text n k hn
    have hstart : StartsBlank (gap ++ rest) := hgap.append_startsBlank hne
    obtain ⟨text', m, hm, hend, hassemble⟩ := exists_assemble_token ht hstart (k := k) text hn
    rw [List.length_append] at hm
    obtain ⟨m, rfl⟩ := Nat.exists_eq_add_of_le (Nat.le_of_add_right_le hm)
    obtain ⟨pattern, hrest, hparts⟩ := ih (gap.reverse ++ text') (k + t.targets.length)
      (n := m) (by omega)
    -- The blanks join the literal text in front of them, which a word has ended or nothing has.
    have hopen : ¬ ['\x7b', '\x7b'] <:+: gap ++ rest.take 1 := by
      intro hm
      have hshort := (infix_of_infix_append hm (fun hc => by cases hgap _ hc)).length_le
      simp at hshort
    have hgapText : literal (gap.reverse ++ text').reverse =
        literal text'.reverse ++ "[\\t ]+".toList := by
      rw [List.reverse_append, List.reverse_reverse]
      exact literalFrom_append_gap hgap hne _ false (fun _ => rfl) (by rwa [List.getLast?_reverse])
    rw [← segments_skip hopen, hgapText, List.append_assoc] at hrest
    refine ⟨_, hassemble _ _ hrest, fun needed => ?_⟩
    have hline : partText (lineParts needed k (t :: tokens)) = (Regex.Part.blanks needed).text ++
        (partText (t.parts k) ++ partText (lineParts true (k + t.targets.length) tokens)) := by
      simp [lineParts]
    rw [hline, ← hparts true]
    simp [Regex.Part.text, Regex.repeatMark]

/-! ## Groups -/

theorem groupName_injective : Function.Injective groupName := by
  intro j k h
  have hdigits : Nat.toDigits 10 j = Nat.toDigits 10 k := by
    have hlist := congrArg String.toList h
    rw [toList_groupName, toList_groupName] at hlist
    exact (List.cons.inj hlist).2
  rw [← @Nat.ofDigitChars_ten_toDigits j, hdigits, Nat.ofDigitChars_ten_toDigits]

theorem nodup_groupNames (k n : Nat) : ((List.range' k n).map groupName).Nodup :=
  List.Nodup.map groupName_injective List.nodup_range'

theorem isNameChar_of_isDigit {c : Char} (h : c.isDigit = true) : Regex.isNameChar c = true := by
  have hdigit : isAsciiDigit c = true := h
  have hsmall : c.toNat < 128 := by
    simp only [isAsciiDigit, Bool.and_eq_true, decide_eq_true_eq] at hdigit
    exact Nat.lt_of_le_of_lt hdigit.2 (by decide)
  simp [Regex.isNameChar, isAlphanumeric, isAsciiAlphanumeric, hsmall, hdigit]

theorem isGroupName_groupName (k : Nat) : Regex.isGroupName (groupName k).toList = true := by
  rw [toList_groupName, Regex.isGroupName, Bool.and_eq_true, List.all_eq_true]
  exact ⟨by decide, fun c hc =>
    isNameChar_of_isDigit (Nat.isDigit_of_mem_toDigits (by decide) (by decide) hc)⟩

theorem partNames_lineParts (tokens : List Token) (needed : Bool) (k : Nat) :
    Regex.partNames (lineParts needed k tokens) =
      (List.range' k (targetsOf tokens).length).map groupName := by
  induction tokens generalizing needed k with
  | nil => rfl
  | cons t tokens ih =>
    have hnames : Regex.partNames (lineParts needed k (t :: tokens)) =
        Regex.partNames (t.parts k) ++
          Regex.partNames (lineParts true (k + t.targets.length) tokens) := by
      simp [Regex.partNames, lineParts, Regex.Part.names]
    rw [hnames, ih]
    cases t with
    | literal text =>
      have hnone : Regex.partNames ((Token.literal text).parts k) = [] := by
        simp [Regex.partNames, Token.parts, Regex.Part.names]
      rw [hnone]
      rfl
    | placeholder name => simp [Regex.partNames, Token.parts, Regex.Part.names, targetsOf,
        Token.targets, List.range'_succ]

/-- **Patterns.** A line of tokens compiles to the pattern of its parts unless that is too large. -/
theorem compile_written {tokens : List Token} {line : List Char} (h : WrittenTokens tokens line) :
    ∃ source, Line.compile line =
      if (linePattern tokens).footprint ≤ Regex.Pattern.sizeLimit then
        .ok ⟨⟨source, linePattern tokens,
          (List.range' 0 (targetsOf tokens).length).map fun k => some (groupName k)⟩,
          targetsOf tokens⟩
      else .error (.badRegex .malformed) := by
  obtain ⟨pattern, hassemble, hparts⟩ := exists_assemble_written h [] 0 (Nat.le_refl _)
  have hassemble' : assemble 0 (segmentsOf line) = .ok (pattern, targetsOf tokens) := hassemble
  have hnames := partNames_lineParts tokens false 0
  have hnameable : Regex.Nameable (lineParts false 0 tokens) := by
    intro name hm
    rw [hnames] at hm
    obtain ⟨k, _, rfl⟩ := List.mem_map.mp hm
    exact ⟨isGroupName_groupName k, not_mem_groupName k (by decide) (by decide)⟩
  have hnodup : (Regex.partNames (lineParts false 0 tokens)).Nodup := by
    rw [hnames]
    exact nodup_groupNames _ _
  have htext : ("^[\\t ]*" ++ String.ofList pattern ++ "[\\t ]*$").toList =
      '^' :: Regex.partsText (lineParts false 0 tokens) := by
    rw [Regex.partsText, ← partText, ← hparts false]
    simp [Regex.Part.text, Regex.repeatMark]
  refine ⟨"^[\\t ]*" ++ String.ofList pattern ++ "[\\t ]*$", ?_⟩
  rw [Line.compile, hassemble']
  dsimp only
  rw [Regex.compile, htext, Regex.read_parts hnameable hnodup, hnames, ← linePattern]
  by_cases hsize : (linePattern tokens).footprint ≤ Regex.Pattern.sizeLimit
  · rw [if_pos hsize, if_pos hsize, List.map_map]
    rfl
  · rw [if_neg hsize, if_neg hsize]
    rfl

/-! ## What a line reads -/

theorem isTabOrSpace_iff {c : Char} : isTabOrSpace c = true ↔ c = '\t' ∨ c = ' ' := by
  simp [isTabOrSpace, or_comm]

theorem IsValue.isWord {w : List Char} (h : IsValue w) : IsWord w := by
  refine ⟨h.1, fun c hc => Bool.eq_false_iff.mpr fun hblank => ?_⟩
  have hplain := h.2 c hc
  rcases isTabOrSpace_iff.mp hblank with rfl | rfl <;> cases hplain

/-- The words of a token, which a line can be split into. -/
theorem Token.Spells.isWord {t : Token} {front w : List Char} (h : t.Spells front)
    (hfits : t.Fits w) : IsWord w := by
  cases h with
  | literal hword _ =>
    obtain rfl : w = front := hfits
    exact hword
  | placeholder => exact IsValue.isWord hfits

theorem WrittenTokens.isWord {tokens : List Token} {line : List Char}
    (h : WrittenTokens tokens line) :
    ∀ t ∈ tokens, ∀ w, t.Fits w → IsWord w := by
  induction h with
  | last ht => simpa using fun w hfits => ht.isWord hfits
  | cons ht _ _ _ ih => exact List.forall_mem_cons.mpr ⟨fun w hfits => ht.isWord hfits, ih⟩

theorem takes_chars_iff {text cs : List Char} {ws : List (List Char)} :
    Regex.Takes (text.map .char) cs ws ↔ cs = text ∧ ws = [] := by
  constructor
  · intro h
    induction text generalizing cs ws with
    | nil =>
      cases h
      exact ⟨rfl, rfl⟩
    | cons c text ih =>
      obtain _ | ⟨hc, h⟩ := h
      obtain ⟨rfl, rfl⟩ := ih h
      cases hc
      exact ⟨rfl, rfl⟩
  · rintro ⟨rfl, rfl⟩
    induction cs with
    | nil => exact .nil
    | cons c cs ih =>
      have hc : Regex.Part.Reads (.char c) [c] := rfl
      exact .cons hc ih

theorem takes_token_iff {t : Token} {k : Nat} {cs : List Char} {ws : List (List Char)} :
    Regex.Takes (t.parts k) cs ws ↔ t.Fits cs ∧ ws = t.taken cs := by
  cases t with
  | literal text => exact takes_chars_iff
  | placeholder name =>
    constructor
    · intro h
      obtain _ | @⟨_, _, w, _, _, hw, h⟩ := h
      cases h
      rw [List.append_nil]
      exact ⟨hw, rfl⟩
    · rintro ⟨hfits, rfl⟩
      have hone := Regex.Takes.cons (p := .word (groupName k)) hfits .nil
      rwa [List.append_nil] at hone

/-- The parts of a line read the texts whose words fit the tokens, and capture the words in the
places of the placeholders. -/
theorem takes_lineParts_iff {tokens : List Token} (htokens : ∀ t ∈ tokens, ∀ w, t.Fits w → IsWord w)
    {needed : Bool} {k : Nat} {cs : List Char} {ws : List (List Char)} :
    Regex.Takes (lineParts needed k tokens) cs ws ↔ ∃ ts, List.Forall₂ Token.Fits tokens ts ∧
      SpacedWords ts cs ∧ (needed = true → StartsBlank cs) ∧ ws = taken tokens ts := by
  induction tokens generalizing needed k cs ws with
  | nil =>
    constructor
    · intro h
      obtain _ | @⟨_, _, gap, _, _, hgap, h⟩ := h
      cases h
      rw [List.append_nil]
      have hblank : IsPadding gap := fun c hc => isTabOrSpace_iff.mpr (hgap.1 c hc)
      exact ⟨[], .nil, .nil hblank, fun _ => hblank.startsBlank, rfl⟩
    · rintro ⟨ts, hfits, hspaced, _, rfl⟩
      cases hfits
      obtain ⟨hgap⟩ := hspaced
      have hreads : Regex.Part.Reads (.blanks false) cs :=
        ⟨fun c hc => isTabOrSpace_iff.mp (hgap c hc), nofun⟩
      have hone := Regex.Takes.cons hreads .nil
      rwa [List.append_nil] at hone
  | cons t tokens ih =>
    obtain ⟨ht, htokens⟩ := List.forall_mem_cons.mp htokens
    constructor
    · intro h
      obtain _ | @⟨_, _, gap, _, _, hgap, h⟩ := h
      obtain ⟨w, rest, _, _, hw, hrest, rfl, rfl⟩ := Regex.takes_append_iff.mp h
      obtain ⟨hfits, rfl⟩ := takes_token_iff.mp hw
      obtain ⟨ts, hts, hspaced, hstart, rfl⟩ := (ih htokens).mp hrest
      have hblank : IsPadding gap := fun c hc => isTabOrSpace_iff.mpr (hgap.1 c hc)
      exact ⟨w :: ts, .cons hfits hts, .cons hblank (ht w hfits) (hstart rfl) hspaced,
        fun hneeded => hblank.append_startsBlank (hgap.2 hneeded), rfl⟩
    · rintro ⟨_, hfits, hspaced, hneeded, rfl⟩
      obtain _ | @⟨_, w, _, ts, hfits, hts⟩ := hfits
      obtain _ | @⟨gap, _, rest, _, hgap, hword, hrest, hspaced⟩ := hspaced
      -- No word starts blank, so the blanks that are needed are in the gap.
      have hmore : Regex.Takes (lineParts true (k + t.targets.length) tokens) rest
          (taken tokens ts) :=
        (ih htokens).mpr ⟨ts, hts, hspaced, fun _ => hrest, rfl⟩
      have hreads : Regex.Part.Reads (.blanks needed) gap :=
        ⟨fun c hc => isTabOrSpace_iff.mp (hgap c hc), fun hn => hword.gap_ne_nil (hneeded hn)⟩
      exact .cons hreads (Regex.takes_append_iff.mpr
        ⟨w, rest, _, _, takes_token_iff.mpr ⟨hfits, rfl⟩, hmore, rfl, rfl⟩)

/-! ## What a line captures -/

/-- The captures of a line whose groups hold the words in the places of the placeholders. -/
theorem filterMap_targets {tokens : List Token} {ts : List (List Char)}
    (h : List.Forall₂ Token.Fits tokens ts) (groups : Nat → Option String) {k : Nat}
    (hgroups : ∀ j w, (taken tokens ts)[j]? = some w → groups (k + j) = some (String.ofList w)) :
    ((targetsOf tokens).zipIdx k).filterMap
      (fun (v, j) => (groups j).map fun text => (v.name, Line.valueOf v text)) =
        pairs tokens ts := by
  induction h generalizing k with
  | nil => rfl
  | @cons t w tokens ts _ _ ih =>
    cases t with
    | literal text => exact ih hgroups
    | placeholder name =>
      have hfirst : groups k = some (String.ofList w) := hgroups 0 w rfl
      have hrest := ih (k := k + 1) fun j w hj => by
        rw [Nat.add_assoc, Nat.add_comm 1 j]
        exact hgroups (j + 1) w hj
      have htargets : targetsOf (.placeholder name :: tokens) =
          ⟨name, false⟩ :: targetsOf tokens := rfl
      rw [htargets, List.zipIdx_cons, List.filterMap_cons]
      dsimp only
      rw [hfirst, hrest]
      rfl

theorem length_taken {tokens : List Token} {ts : List (List Char)}
    (h : List.Forall₂ Token.Fits tokens ts) :
    (taken tokens ts).length = (targetsOf tokens).length := by
  induction h with
  | nil => rfl
  | @cons t w tokens ts _ _ ih =>
    cases t with
    | literal text => exact ih
    | placeholder name => exact congrArg (· + 1) ih

/-- A line of tokens that has been compiled. -/
structure Compiled (tokens : List Token) (l : Line) : Prop where
  split : ∀ t ∈ tokens, ∀ w, t.Fits w → IsWord w
  pattern : l.regex.pattern = linePattern tokens
  groups : l.regex.groups =
    (List.range' 0 (targetsOf tokens).length).map fun k => some (groupName k)
  targets : l.targets = targetsOf tokens

namespace Compiled

variable {tokens : List Token} {l : Line} {input : List Char}

/-- A match finds words that fit the tokens, and captures them. -/
theorem captures_eq (h : Compiled tokens l) {captured : List (String × Json)}
    (hcaptures : l.captures input = some captured) :
    List.Forall₂ Token.Fits tokens (words input) ∧ captured = pairs tokens (words input) := by
  obtain ⟨m, hm, rfl⟩ := Option.map_eq_some_iff.mp hcaptures
  rw [Regex.find?, h.pattern, linePattern, Regex.findFrom_start] at hm
  obtain ⟨ws, htakes, hgroups⟩ := Regex.matchAt_parts hm
  obtain ⟨ts, hfits, hspaced, _, rfl⟩ := (takes_lineParts_iff h.split).mp htakes
  rw [hspaced.words_eq]
  refine ⟨hfits, ?_⟩
  have hnames : l.regex.names = (List.range' 0 (targetsOf tokens).length).map groupName := by
    rw [Regex.names, h.groups, List.filterMap_map]
    simp
  have hnodup : l.regex.names.Nodup := by
    rw [hnames]
    exact nodup_groupNames _ _
  rw [h.targets]
  refine filterMap_targets hfits (fun j => l.regex.captured? input m (groupName j))
    fun j w hj => ?_
  have hlength : j < (targetsOf tokens).length := by
    rw [← length_taken hfits]
    exact (List.getElem?_eq_some_iff.mp hj).1
  have hgroup : l.regex.groups[j]? = some (some (groupName j)) := by
    rw [h.groups, List.getElem?_map, List.getElem?_range' hlength]
    simp
  rw [Nat.zero_add, ← hgroups j w hj]
  exact Regex.captured?_of_mem hnodup (Regex.mem_namedGroups_iff.mpr ⟨j, hgroup, rfl⟩)

theorem captures_of_fits (h : Compiled tokens l)
    (hfits : List.Forall₂ Token.Fits tokens (words input)) :
    l.captures input = some (pairs tokens (words input)) := by
  have htakes : Regex.Takes (lineParts false 0 tokens) input (taken tokens (words input)) :=
    (takes_lineParts_iff h.split).mpr ⟨_, hfits, words_eq_iff.mp rfl, nofun, rfl⟩
  obtain ⟨m, hm⟩ := Regex.exists_matchAt_parts htakes
  have hfind : l.regex.find? input = some m := by
    rw [Regex.find?, h.pattern, linePattern, Regex.findFrom_start, hm]
  obtain ⟨captured, hcaptured⟩ : ∃ captured, l.captures input = some captured :=
    ⟨_, by rw [Line.captures, hfind, Option.map_some]⟩
  rw [hcaptured, (h.captures_eq hcaptured).2]

end Compiled

/-! ## Values in their places -/

theorem fits_placed {tokens : List Token} {values : List (List Char)}
    (hlength : values.length = (targetsOf tokens).length) (hvalues : ∀ w ∈ values, IsValue w) :
    List.Forall₂ Token.Fits tokens (placed tokens values) := by
  induction tokens generalizing values with
  | nil => exact .nil
  | cons t tokens ih =>
    cases t with
    | literal text => exact .cons rfl (ih hlength hvalues)
    | placeholder name =>
      cases values with
      | nil => cases hlength
      | cons w values =>
        obtain ⟨hw, hvalues⟩ := List.forall_mem_cons.mp hvalues
        exact .cons hw (ih (Nat.succ.inj hlength) hvalues)

theorem pairs_placed {tokens : List Token} {values : List (List Char)}
    (hlength : values.length = (targetsOf tokens).length) :
    pairs tokens (placed tokens values) =
      ((targetsOf tokens).map (·.name)).zip (values.map fun w => .string (String.ofList w)) := by
  induction tokens generalizing values with
  | nil => rfl
  | cons t tokens ih =>
    cases t with
    | literal text => exact ih hlength
    | placeholder name =>
      cases values with
      | nil => cases hlength
      | cons w values =>
        exact congrArg ((name, .string (String.ofList w)) :: ·) (ih (Nat.succ.inj hlength))

/-- **Tokens.** A line of literal words and bare placeholders compiles unless its pattern is too
large. It matches an input if the words of that fit the tokens one by one, however they are spaced,
and captures the words in the places of the placeholders. So values without white space are got back
from any text that they have been put into. -/
theorem compile_tokens {tokens : List Token} {line : List Char} (h : WrittenTokens tokens line) :
    ((∃ l, Line.compile line = .ok l) ↔
      (linePattern tokens).footprint ≤ Regex.Pattern.sizeLimit) ∧
    ∀ l, Line.compile line = .ok l →
      (∀ input, (l.captures input).isSome = true ↔
        List.Forall₂ Token.Fits tokens (words input)) ∧
      (∀ input captured, l.captures input = some captured →
        captured = pairs tokens (words input)) ∧
      (∀ values input, values.length = (targetsOf tokens).length → (∀ w ∈ values, IsValue w) →
        SpacedWords (placed tokens values) input →
        l.captures input = some (((targetsOf tokens).map (·.name)).zip
          (values.map fun w => .string (String.ofList w)))) := by
  obtain ⟨source, hcompile⟩ := compile_written h
  by_cases hsize : (linePattern tokens).footprint ≤ Regex.Pattern.sizeLimit
  · rw [if_pos hsize] at hcompile
    refine ⟨⟨fun _ => hsize, fun _ => ⟨_, hcompile⟩⟩, fun l hl => ?_⟩
    have hcompiled : Compiled tokens l := by
      rw [← Except.ok.inj (hcompile.symm.trans hl)]
      exact ⟨h.isWord, rfl, rfl, rfl⟩
    refine ⟨fun input => ⟨fun hsome => ?_, fun hfits => ?_⟩, fun input captured hcaptured => ?_,
      fun values input hlength hvalues hspaced => ?_⟩
    · obtain ⟨captured, hcaptured⟩ := Option.isSome_iff_exists.mp hsome
      exact (hcompiled.captures_eq hcaptured).1
    · rw [hcompiled.captures_of_fits hfits]
      rfl
    · exact (hcompiled.captures_eq hcaptured).2
    · have hwords : words input = placed tokens values := hspaced.words_eq
      rw [hcompiled.captures_of_fits (hwords ▸ fits_placed hlength hvalues), hwords,
        pairs_placed hlength]
  · rw [if_neg hsize] at hcompile
    refine ⟨⟨fun ⟨l, hl⟩ => ?_, fun hle => absurd hle hsize⟩, fun l hl => ?_⟩
    · rw [hcompile] at hl
      cases hl
    · rw [hcompile] at hl
      cases hl

def routeTokens : List Token :=
  [.literal "via".toList, .placeholder "hop", .literal "(.*)[\x7b\u00e9".toList,
    .placeholder "metric"]

def routeLine : List Char :=
  "via \x7b\x7b hop \x7d\x7d  (.*)[\x7b\u00e9\t\x7b\x7bmetric\x7d\x7d".toList

theorem routeLine_written : WrittenTokens routeTokens routeLine := by
  have hgap : Blanks [' '] := by decide
  have hnone : Blanks [] := by decide
  have hvia : Token.Spells (.literal "via".toList) "via".toList :=
    .literal (by decide) (by decide)
  have hsigns : Token.Spells (.literal "(.*)[\x7b\u00e9".toList) "(.*)[\x7b\u00e9".toList :=
    .literal (by decide) (by decide)
  have hhop : Token.Spells (.placeholder "hop") _ := .placeholder (by decide) hgap hgap
  have hmetric : Token.Spells (.placeholder "metric") _ := .placeholder (by decide) hnone hnone
  have hwritten : WrittenTokens routeTokens _ :=
    .cons hvia (by decide : [' '] ≠ []) (by decide) (.cons hhop (by decide : [' ', ' '] ≠ [])
      (by decide) (.cons hsigns (by decide : ['\t'] ≠ []) (by decide) (.last hmetric)))
  exact hwritten

theorem compile_tokens_route :
    ∃ l, Line.compile routeLine = .ok l ∧
      l.captures "\tvia 10.0.0.1\t (.*)[\x7b\u00e9   20 ".toList =
        some [("hop", .string "10.0.0.1"), ("metric", .string "20")] := by
  obtain ⟨hcompiles, hcaptures⟩ := compile_tokens routeLine_written
  obtain ⟨l, hl⟩ := hcompiles.mpr (by decide)
  refine ⟨l, hl, (hcaptures l hl).2.2 ["10.0.0.1".toList, "20".toList] _ rfl ?_ ?_⟩
  · decide
  · exact words_eq_iff.mp (by decide)

end TemplateBench.Ttp
