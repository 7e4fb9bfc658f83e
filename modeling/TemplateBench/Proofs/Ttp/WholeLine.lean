import TemplateBench.Proofs.Regex.Spliced
import TemplateBench.Proofs.Regex.Stop
import TemplateBench.Proofs.Result
import TemplateBench.Ttp.Line

/-!
Pattern lines match whole lines.

* `parse_regex`: a placeholder has a built-in expression, which stands on its own, or a quoted one.
* `assemble_spliced`: the expression of a line is spliced from literal text and groups.
* `compile_wholeLine`: so a match covers the whole line if the expressions of all placeholders stand
  on their own.
* `compile_unbalanced`: a quoted expression that does not may match a part of the line.
-/
namespace TemplateBench.Ttp
open Text Regex

/-! ## Placeholders -/

/-- An expression that is well-formed by itself. -/
def StandsAlone (regex : String) : Prop := ∃ r, Regex.compile regex = .ok r

/-- The expression of an indicator, or of a placeholder that has none. -/
inductive BuiltIn : String → Prop
  | plain : BuiltIn "\\S+"
  | named {name regex : String} : indicator? name = some regex → BuiltIn regex

theorem BuiltIn.standsAlone {regex : String} (h : BuiltIn regex) : StandsAlone regex := by
  cases h with
  | plain => exact ⟨_, eq_ok_getD (by decide +kernel)⟩
  | named hname =>
    unfold indicator? at hname
    split at hname <;> cases hname
    all_goals exact ⟨_, eq_ok_getD (by decide +kernel)⟩

theorem BuiltIn.oneLine {regex : String} (h : BuiltIn regex) : '\n' ∉ regex.toList := by
  cases h with
  | plain => decide
  | named hname =>
    unfold indicator? at hname
    split at hname <;> cases hname
    all_goals decide +kernel

/-- The expression for a quoted pattern. -/
def quoted (pattern : List Char) : String := "(?:" ++ String.ofList pattern ++ ")"

theorem quotedPattern?_oneLine {item pattern : List Char} (h : quotedPattern? item = some pattern) :
    '\n' ∉ pattern := by
  unfold quotedPattern? at h
  obtain ⟨inner, _, h⟩ := Option.bind_eq_some_iff.mp h
  obtain ⟨inner, _, h⟩ := Option.bind_eq_some_iff.mp h
  split at h
  · cases h
  · split at h
    · cases h
    · split at h
      · cases h
      · split at h
        · rename_i hquote
          cases h
          simp at hquote
          simpa using hquote.2
        · cases h

/-- The last indicator gives the expression. -/
theorem applyItems_regex (items : List (List Char)) :
    ∀ {v v' : Variable} {regex regex' : String}, applyItems v regex items = .ok (v', regex') →
      regex' = regex ∨ BuiltIn regex' ∨ ∃ pattern, '\n' ∉ pattern ∧ regex' = quoted pattern := by
  induction items with
  | nil =>
    intro v v' regex regex' h
    cases h
    exact .inl rfl
  | cons item rest ih =>
    intro v v' regex regex' h
    rw [applyItems] at h
    split at h
    · exact ih h
    · split at h
      · rename_i named hnamed
        rcases ih h with rfl | hregex
        · exact .inr (.inl (.named hnamed))
        · exact .inr hregex
      · split at h
        · rename_i pattern hpattern
          rcases ih h with rfl | hregex
          · exact .inr (.inr ⟨pattern, quotedPattern?_oneLine hpattern, rfl⟩)
          · exact .inr hregex
        · cases h

/-- A placeholder has a built-in expression or a quoted one. -/
theorem parse_regex {body : List Char} {v : Variable} {regex : String}
    (h : Variable.parse body = .ok (v, regex)) :
    BuiltIn regex ∨ ∃ pattern, '\n' ∉ pattern ∧ regex = quoted pattern := by
  unfold Variable.parse at h
  split at h
  · cases h
  · split at h
    · rcases applyItems_regex _ h with rfl | hregex
      · exact .inl .plain
      · exact hregex
    · cases h

/-! ## Segments -/

theorem untilClose_suffix (cs : List Char) :
    ∀ {body after : List Char}, untilClose cs = some (body, after) → after <:+ cs := by
  fun_induction untilClose cs with
  | case1 rest =>
    intro body after h
    cases h
    exact (List.suffix_cons _ _).trans (List.suffix_cons _ _)
  | case2 | case3 => exact nofun
  | case4 c rest _ _ ih =>
    intro body after h
    obtain ⟨⟨front, more⟩, hmore, he⟩ := Option.map_eq_some_iff.mp h
    cases he
    exact (ih hmore).trans (List.suffix_cons c rest)

/-- The literal text of a line is a part of it. -/
theorem segments_oneLine {text cs : List Char} (n : Nat) (htext : '\n' ∉ text) (hcs : '\n' ∉ cs) :
    ∀ {literal : List Char}, Segment.literal literal ∈ segments text n cs → '\n' ∉ literal := by
  fun_induction segments text n cs with
  | case1 text cs =>
    intro literal h
    cases List.mem_singleton.mp h
    simpa using htext
  | case2 text n =>
    intro literal h
    cases List.mem_singleton.mp h
    simpa using htext
  | case3 text n rest body after hclose ih =>
    intro literal h
    rcases List.mem_cons.mp h with h | h
    · cases h
      simpa using htext
    · rcases List.mem_cons.mp h with h | h
      · cases h
      · have hafter : after <:+ '\x7b' :: '\x7b' :: rest :=
          (untilClose_suffix rest hclose).trans
            ((List.suffix_cons _ _).trans (List.suffix_cons _ _))
        exact ih (by simp) (fun hm => hcs (hafter.subset hm)) h
  | case4 text n rest hclose ih =>
    rw [List.mem_cons, not_or] at hcs
    exact ih (by simp [htext]) hcs.2
  | case5 text n c rest hopen ih =>
    rw [List.mem_cons, not_or] at hcs
    exact ih (by simp [htext, hcs.1]) hcs.2

/-! ## Lines -/

theorem escape_spliced {c : Char} (hc : c ≠ '\n') {rest : List Char} (h : Spliced rest) :
    Spliced (escape c ++ rest) := by
  have hescape : escape c = if Regex.isMeta c then ['\\', c] else [c] := rfl
  rw [hescape]
  split
  · rename_i hm
    exact .escaped hm h
  · rename_i hm
    exact .plain (by simpa using hm) hc h

theorem literalFrom_spliced (text : List Char) :
    ∀ (inBlanks : Bool) {rest : List Char}, '\n' ∉ text → Spliced rest →
      Spliced (literalFrom inBlanks text ++ rest) := by
  induction text with
  | nil => exact fun _ _ _ h => h
  | cons c text ih =>
    intro inBlanks rest htext h
    rw [List.mem_cons, not_or] at htext
    rw [literalFrom]
    split
    · have hmore : Spliced (literalFrom true text ++ rest) := ih true htext.2 h
      cases inBlanks with
      | true => exact hmore
      | false => exact .blanks hmore
    · rw [List.append_assoc]
      exact escape_spliced (Ne.symm htext.1) (ih false htext.2 h)

theorem toList_groupName (k : Nat) : (groupName k).toList = 'v' :: Nat.toDigits 10 k := by
  simp [groupName]

/-- No sign of an expression is part of the name of a group. -/
theorem not_mem_groupName (k : Nat) {c : Char} (hv : c ≠ 'v') (hdigit : c.isDigit = false) :
    c ∉ (groupName k).toList := by
  rw [toList_groupName, List.mem_cons, not_or]
  refine ⟨hv, fun hm => ?_⟩
  rw [Nat.isDigit_of_mem_toDigits (by decide) (by decide) hm] at hdigit
  cases hdigit

theorem assemble_spliced {stop : List Char} (hstop : Spliced stop) (segs : List Segment) :
    ∀ {count : Nat} {pattern : List Char} {targets : List Variable},
      assemble count segs = .ok (pattern, targets) →
      (∀ text, Segment.literal text ∈ segs → '\n' ∉ text) →
      (∀ body, Segment.placeholder body ∈ segs → ∀ v regex,
        Variable.parse body = .ok (v, regex) → '\n' ∉ regex.toList ∧ StandsAlone regex) →
      Spliced (pattern ++ stop) := by
  induction segs with
  | nil =>
    intro count pattern targets h _ _
    cases h
    exact hstop
  | cons seg rest ih =>
    intro count pattern targets h htexts halone
    have htexts' := fun text hm => htexts text (List.mem_cons_of_mem seg hm)
    have halone' := fun body hm => halone body (List.mem_cons_of_mem seg hm)
    cases seg with
    | literal text =>
      rw [assemble] at h
      obtain ⟨⟨more, targets'⟩, hmore, h⟩ := bind_eq_ok_iff.mp h
      cases h
      rw [List.append_assoc]
      exact literalFrom_spliced text false (htexts text (by simp)) (ih hmore htexts' halone')
    | placeholder body =>
      rw [assemble] at h
      obtain ⟨⟨v, regex⟩, hparse, h⟩ := bind_eq_ok_iff.mp h
      obtain ⟨⟨more, targets'⟩, hmore, h⟩ := bind_eq_ok_iff.mp h
      cases h
      obtain ⟨hline, alone, halone⟩ := halone body (by simp) v regex hparse
      have hgroup : ("(?P<" ++ groupName count ++ ">" ++ regex ++ ")").toList ++ more ++ stop =
          '(' :: '?' :: 'P' :: '<' :: ((groupName count).toList ++ '>' ::
            (regex.toList ++ ')' :: (more ++ stop))) := by
        simp
      rw [hgroup]
      exact .group (not_mem_groupName count (by decide) (by decide))
        (not_mem_groupName count (by decide) (by decide)) hline (read_of_compile halone)
        (ih hmore htexts' halone')

/-- The expression of a line, between the start of the text and its end, is one sequence. -/
theorem compile_pattern {line : List Char} {l : Line} (hline : '\n' ∉ line)
    (h : Line.compile line = .ok l)
    (hquoted : ∀ body v pattern, Segment.placeholder body ∈ segmentsOf line →
      Variable.parse body = .ok (v, quoted pattern) → StandsAlone (quoted pattern)) :
    ∃ ps, l.regex.pattern = behindStart (Pattern.seqs (ps ++ [.look .stop])) := by
  unfold Line.compile at h
  split at h
  · cases h
  · rename_i pattern targets hassemble
    split at h
    · cases h
    · rename_i regex hregex
      cases h
      have hread := read_of_compile hregex
      have htext : ("^[\\t ]*" ++ String.ofList pattern ++ "[\\t ]*$").toList =
          '^' :: ("[\\t ]*".toList ++ (pattern ++ "[\\t ]*$".toList)) := by
        simp
      rw [htext] at hread
      have hspliced : Spliced (pattern ++ "[\\t ]*$".toList) := by
        refine assemble_spliced .stop (segmentsOf line) hassemble ?_ ?_
        · intro text htext
          exact segments_oneLine line.length (by simp) hline htext
        · intro body hbody v written hparse
          rcases parse_regex hparse with hbuiltIn | ⟨quote, hquote, rfl⟩
          · exact ⟨hbuiltIn.oneLine, hbuiltIn.standsAlone⟩
          · exact ⟨by simp [quoted, hquote], hquoted body v quote hbody hparse⟩
      exact read_spliced hspliced hread

def portLine : List Char := "port \x7b\x7b state | re(\"up|down\") \x7d\x7d".toList

/-- The bar in the placeholder stays within its group. -/
theorem portLine_quoted (body : List Char) (v : Variable) (pattern : List Char)
    (hbody : Segment.placeholder body ∈ segmentsOf portLine)
    (hparse : Variable.parse body = .ok (v, quoted pattern)) : StandsAlone (quoted pattern) := by
  have hsegments : segmentsOf portLine = [.literal "port ".toList,
      .placeholder " state | re(\"up|down\") ".toList, .literal []] := by decide +kernel
  obtain rfl : body = " state | re(\"up|down\") ".toList := by
    rw [hsegments] at hbody
    simpa using hbody
  have hregex : (Variable.parse " state | re(\"up|down\") ".toList).toOption.map (·.2) =
      some "(?:up|down)" := by
    decide +kernel
  rw [hparse] at hregex
  have hquoted : quoted pattern = "(?:up|down)" := Option.some.inj hregex
  rw [hquoted]
  exact ⟨_, eq_ok_getD (by decide +kernel)⟩

/-- **Whole lines.** A pattern line matches a text from its start to its end, if the quoted
expressions of its placeholders stand on their own. A line holds no line feed, which could end a
comment in one of them behind its group. -/
theorem compile_wholeLine {line : List Char} {l : Line} (hline : '\n' ∉ line)
    (h : Line.compile line = .ok l)
    (hquoted : ∀ body v pattern, Segment.placeholder body ∈ segmentsOf line →
      Variable.parse body = .ok (v, quoted pattern) → StandsAlone (quoted pattern))
    {text : List Char} {m : Regex.Match} (hm : l.regex.find? text = some m) :
    m.start = 0 ∧ m.stop = text.length := by
  obtain ⟨ps, hps⟩ := compile_pattern hline h hquoted
  rw [Regex.find?, hps, findFrom_start] at hm
  refine ⟨matchAt_start_eq hm, ?_⟩
  rw [matchAt_beforeStop (BeforeStop.seqs ps) hm, Nat.zero_add]

theorem compile_wholeLine_port :
    ∃ l m, Line.compile portLine = .ok l ∧ l.regex.find? "port up ".toList = some m ∧
      m.start = 0 ∧ m.stop = "port up ".toList.length := by
  obtain ⟨l, hl, hmatch⟩ : ∃ l, Line.compile portLine = .ok l ∧
      (l.regex.find? "port up ".toList).isSome = true := exists_ok (by decide +kernel)
  obtain ⟨m, hm⟩ := Option.isSome_iff_exists.mp hmatch
  have hline : '\n' ∉ portLine := by decide
  exact ⟨l, m, hl, hm, compile_wholeLine hline hl portLine_quoted hm⟩

/-- A quoted expression that closes the group around it and opens another one is accepted, and the
first branch of the line is not tied to the end of the text. -/
theorem compile_unbalanced :
    ∃ l m, Line.compile "\x7b\x7b x | re(\"a))|(?:(?:b\") \x7d\x7d".toList = .ok l ∧
      l.regex.source = "^[\\t ]*(?P<v0>(?:a))|(?:(?:b))[\\t ]*$" ∧
      l.regex.find? "azzz".toList = some m ∧ m.start = 0 ∧ m.stop = 1 := by
  obtain ⟨l, hl, hsource, hmatch⟩ :
      ∃ l, Line.compile "\x7b\x7b x | re(\"a))|(?:(?:b\") \x7d\x7d".toList = .ok l ∧
        l.regex.source = "^[\\t ]*(?P<v0>(?:a))|(?:(?:b))[\\t ]*$" ∧
        (l.regex.find? "azzz".toList).any (fun m => m.start = 0 && m.stop = 1) = true :=
    exists_ok (by decide +kernel)
  obtain ⟨m, hm, hborders⟩ := (Option.any_eq_true _ _).mp hmatch
  obtain ⟨hstart, hstop⟩ := Bool.and_eq_true_iff.mp hborders
  exact ⟨l, m, hl, hsource, hm, of_decide_eq_true hstart, of_decide_eq_true hstop⟩

end TemplateBench.Ttp
