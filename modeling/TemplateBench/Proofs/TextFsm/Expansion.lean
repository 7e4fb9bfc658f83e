import TemplateBench.Proofs.TextFsm.Placeholders

/-!
Expanding a pattern is reading it by its grammar.

* `Broken`: what follows a dollar sign that starts no piece, with the error it gives.
* `expandFrom_plain` to `expandFrom_bare_cons`: what expanding does at one character, and
  `expand_char` to `expand_bare` at the first piece of a pattern.
* `expand_append`: a pattern is expanded piece by piece, and then the text behind it.
* `decided`: every pattern is cut into pieces, or up to a dollar sign that starts none; so what can
  be expanded is cut into pieces (`shows_of_expand`).
* `expand_grammar`: so a pattern is expanded if it is cut into pieces whose values are declared,
  and it is an error otherwise; in a text with doubled dollar signs nothing is replaced.
-/
namespace TemplateBench.TextFsm

/-- No piece starts with a dollar sign before this text. -/
inductive Broken (templates : Templates) : List Char → PlaceholderError → Prop
  | atEnd : Broken templates [] .invalid
  | sign {c : Char} (rest : List Char) : c ≠ '$' → c ≠ '\x7b' → isNameStart c = false →
      Broken templates (c :: rest) .invalid
  | unclosed {rest : List Char} : '\x7d' ∉ rest → Broken templates ('\x7b' :: rest) .invalid
  | noName {name : List Char} (rest : List Char) : '\x7d' ∉ name → isIdentifier name = false →
      Broken templates ('\x7b' :: (name ++ '\x7d' :: rest)) .invalid
  | bracedUnknown {name : List Char} (rest : List Char) : isIdentifier name = true →
      templates.lookup (String.ofList name) = none →
      Broken templates ('\x7b' :: (name ++ '\x7d' :: rest)) (.unknown (String.ofList name))
  | bareUnknown {name rest : List Char} : isIdentifier name = true →
      (∀ c ∈ rest.head?, isNameChar c = false) →
      templates.lookup (String.ofList name) = none →
      Broken templates (name ++ rest) (.unknown (String.ofList name))

/-- The first dollar sign of a pattern that starts no piece. -/
def Stuck (templates : Templates) (pattern : List Char) (e : PlaceholderError) : Prop :=
  ∃ front rest shown, pattern = front ++ '$' :: rest ∧ Shows templates front shown ∧
    Broken templates rest e

/-- A text in which every dollar sign is doubled. -/
def doubleDollars (text : List Char) : List Char :=
  text.flatMap fun c => if c = '$' then ['$', '$'] else [c]

variable {templates : Templates}

theorem lookUp_eq_ok_iff {name template : List Char} :
    lookUp templates name = .ok template ↔
      ∃ t, templates.lookup (String.ofList name) = some t ∧ template = t.toList := by
  unfold lookUp
  cases templates.lookup (String.ofList name) with
  | none => simp
  | some t => simp [eq_comm]

theorem lookUp_of_none {name : List Char} (h : templates.lookup (String.ofList name) = none) :
    lookUp templates name = .error (.unknown (String.ofList name)) := by
  rw [lookUp, h]

/-! ## Texts in order -/

/-- Two texts one after the other. Of two errors the first one counts. -/
def inOrder (first second : Except PlaceholderError (List Char)) :
    Except PlaceholderError (List Char) :=
  first.bind fun shown => second.bind fun out => .ok (shown ++ out)

theorem inOrder_assoc (x y z : Except PlaceholderError (List Char)) :
    inOrder (inOrder x y) z = inOrder x (inOrder y z) := by
  cases x with
  | error e => rfl
  | ok shown =>
    cases y with
    | error e => rfl
    | ok next => cases z <;> simp [inOrder, Except.bind]

theorem inOrder_nil (x : Except PlaceholderError (List Char)) : inOrder x (.ok []) = x := by
  cases x <;> simp [inOrder, Except.bind]

theorem nil_inOrder (x : Except PlaceholderError (List Char)) : inOrder (.ok []) x = x := by
  cases x <;> rfl

theorem inOrder_eq_ok_iff {x y : Except PlaceholderError (List Char)} {out : List Char} :
    inOrder x y = .ok out ↔ ∃ shown more, x = .ok shown ∧ y = .ok more ∧ out = shown ++ more := by
  cases x <;> cases y <;> simp [inOrder, Except.bind, eq_comm]

/-! ## One character -/

theorem expandFrom_plain (c : Char) (cs : List Char) :
    expandFrom templates .plain (c :: cs) =
      if c = '$' then expandFrom templates .dollar cs
      else inOrder (.ok [c]) (expand templates cs) := rfl

theorem expandFrom_dollar (c : Char) (cs : List Char) :
    expandFrom templates .dollar (c :: cs) =
      if c = '$' then inOrder (.ok ['$']) (expand templates cs)
      else if c = '\x7b' then expandFrom templates (.braced []) cs
      else if isNameStart c then expandFrom templates (.bare [c]) cs
      else .error .invalid := rfl

theorem expandFrom_braced_cons (name : List Char) (c : Char) (cs : List Char) :
    expandFrom templates (.braced name) (c :: cs) =
      if c ≠ '\x7d' then expandFrom templates (.braced (c :: name)) cs
      else if isIdentifier name.reverse then
        inOrder (lookUp templates name.reverse) (expand templates cs)
      else .error .invalid := rfl

/-- What follows a bare name is read as if it came first. -/
theorem expandFrom_bare_cons (name : List Char) (c : Char) (cs : List Char) :
    expandFrom templates (.bare name) (c :: cs) =
      if isNameChar c then expandFrom templates (.bare (c :: name)) cs
      else inOrder (lookUp templates name.reverse) (expand templates (c :: cs)) := by
  rw [expandFrom]
  congr 1
  by_cases hc : c = '$'
  · subst hc
    rfl
  · rw [expand, expandFrom_plain, if_neg hc, ← inOrder_assoc]
    simp only [if_neg hc]
    cases lookUp templates name.reverse with
    | error e => rfl
    | ok template =>
      show (expand templates cs).bind _ = inOrder (.ok (template ++ [c])) (expand templates cs)
      simp [inOrder, Except.bind, pure, Except.pure]

/-! ## The first piece -/

theorem expand_char {c : Char} (h : c ≠ '$') (cs : List Char) :
    expand templates (c :: cs) = inOrder (.ok [c]) (expand templates cs) := by
  rw [expand, expandFrom_plain, if_neg h]

theorem expand_dollar (cs : List Char) :
    expand templates ('$' :: '$' :: cs) = inOrder (.ok ['$']) (expand templates cs) := by
  rw [expand, expandFrom_plain, if_pos rfl, expandFrom_dollar, if_pos rfl]

theorem expandFrom_braced {more : List Char} (h : '\x7d' ∉ more) (cs : List Char) :
    ∀ name, expandFrom templates (.braced name) (more ++ '\x7d' :: cs) =
      if isIdentifier (name.reverse ++ more) then
        inOrder (lookUp templates (name.reverse ++ more)) (expand templates cs)
      else .error .invalid := by
  induction more with
  | nil =>
    intro name
    rw [List.nil_append, expandFrom_braced_cons, if_neg (by simp), List.append_nil]
  | cons c more ih =>
    intro name
    rw [List.mem_cons, not_or] at h
    rw [List.cons_append, expandFrom_braced_cons, if_pos (Ne.symm h.1), ih h.2]
    simp

/-- A braced text ends at the first closing brace. -/
theorem expand_braced {name : List Char} (h : '\x7d' ∉ name) (cs : List Char) :
    expand templates ('$' :: '\x7b' :: (name ++ '\x7d' :: cs)) =
      if isIdentifier name then inOrder (lookUp templates name) (expand templates cs)
      else .error .invalid := by
  rw [expand, expandFrom_plain, if_pos rfl, expandFrom_dollar, if_neg (by decide), if_pos rfl,
    expandFrom_braced h]
  rfl

theorem expandFrom_unclosed {cs : List Char} (h : '\x7d' ∉ cs) :
    ∀ name, expandFrom templates (.braced name) cs = .error .invalid := by
  induction cs with
  | nil => exact fun name => rfl
  | cons c cs ih =>
    intro name
    rw [List.mem_cons, not_or] at h
    rw [expandFrom_braced_cons, if_pos (Ne.symm h.1), ih h.2]

theorem expandFrom_bare {more : List Char} (h : ∀ c ∈ more, isNameChar c = true)
    (cs : List Char) : ∀ name, expandFrom templates (.bare name) (more ++ cs) =
      expandFrom templates (.bare (more.reverse ++ name)) cs := by
  induction more with
  | nil => exact fun name => rfl
  | cons c more ih =>
    intro name
    rw [List.forall_mem_cons] at h
    rw [List.cons_append, expandFrom_bare_cons, if_pos h.1, ih h.2]
    simp

/-- A bare name that cannot go on is looked up. -/
theorem expandFrom_bare_end {cs : List Char} (h : ∀ c ∈ cs.head?, isNameChar c = false)
    (name : List Char) : expandFrom templates (.bare name) cs =
      inOrder (lookUp templates name.reverse) (expand templates cs) := by
  cases cs with
  | nil => exact (inOrder_nil (lookUp templates name.reverse)).symm
  | cons c cs => rw [expandFrom_bare_cons, if_neg (by simpa using h c rfl)]

theorem expand_bare {name cs : List Char} (hname : isIdentifier name = true)
    (h : ∀ c ∈ cs.head?, isNameChar c = false) :
    expand templates ('$' :: (name ++ cs)) =
      inOrder (lookUp templates name) (expand templates cs) := by
  obtain ⟨c, rest, rfl, hdollar, hbrace⟩ := exists_cons_of_isIdentifier hname
  have hstart := hname
  rw [isIdentifier, Bool.and_eq_true] at hstart
  have hrest : ∀ d ∈ rest, isNameChar d = true := fun d hd =>
    forall_isNameChar hname d (List.mem_cons_of_mem c hd)
  rw [expand, expandFrom_plain, if_pos rfl, List.cons_append, expandFrom_dollar, if_neg hdollar,
    if_neg hbrace, if_pos hstart.1, expandFrom_bare hrest, expandFrom_bare_end h]
  simp

theorem not_mem_name {name : List Char} (h : isIdentifier name = true) : '\x7d' ∉ name :=
  fun hm => absurd (forall_isNameChar h _ hm) (by decide)

/-- A dollar sign that starts no piece is an error. -/
theorem expand_broken {rest : List Char} {e : PlaceholderError} (h : Broken templates rest e) :
    expand templates ('$' :: rest) = .error e := by
  cases h with
  | atEnd => rfl
  | sign rest hdollar hbrace hstart =>
    rw [expand, expandFrom_plain, if_pos rfl, expandFrom_dollar, if_neg hdollar, if_neg hbrace,
      if_neg (by simp [hstart])]
  | unclosed hrest =>
    rw [expand, expandFrom_plain, if_pos rfl, expandFrom_dollar, if_neg (by decide), if_pos rfl,
      expandFrom_unclosed hrest]
  | noName rest hclose hname => rw [expand_braced hclose, if_neg (by simp [hname])]
  | bracedUnknown rest hname hnone =>
    rw [expand_braced (not_mem_name hname), if_pos hname, lookUp_of_none hnone]
    rfl
  | bareUnknown hname hrest hnone =>
    rw [expand_bare hname hrest, lookUp_of_none hnone]
    rfl

/-! ## Piece by piece -/

theorem Piece.text_char (c : Char) : (Piece.char c).text templates = .ok [c] := rfl

theorem Piece.text_dollar : Piece.dollar.text templates = .ok ['$'] := rfl

/-- The texts of pieces, one after the other. -/
def piecesText (templates : Templates) : List Piece → Except PlaceholderError (List Char)
  | [] => .ok []
  | piece :: pieces => inOrder (piece.text templates) (piecesText templates pieces)

theorem piecesText_eq_ok_iff {pieces : List Piece} {out : List Char} :
    piecesText templates pieces = .ok out ↔
      ∃ texts, List.Forall₂ (fun piece text => Piece.text templates piece = .ok text) pieces texts ∧
        out = texts.flatten := by
  induction pieces generalizing out with
  | nil => simp [piecesText, eq_comm]
  | cons piece pieces ih =>
    rw [piecesText, inOrder_eq_ok_iff]
    constructor
    · rintro ⟨text, more, htext, hmore, rfl⟩
      obtain ⟨texts, htexts, rfl⟩ := ih.mp hmore
      exact ⟨text :: texts, .cons htext htexts, rfl⟩
    · rintro ⟨texts, htexts, rfl⟩
      cases htexts with
      | cons htext htexts => exact ⟨_, _, htext, ih.mpr ⟨_, htexts, rfl⟩, rfl⟩

theorem shows_iff {cs out : List Char} :
    Shows templates cs out ↔ ∃ pieces, Cuts cs pieces ∧ piecesText templates pieces = .ok out := by
  constructor
  · rintro ⟨pieces, texts, hcuts, htexts⟩
    exact ⟨pieces, hcuts, piecesText_eq_ok_iff.mpr ⟨texts, htexts⟩⟩
  · rintro ⟨pieces, hcuts, hout⟩
    obtain ⟨texts, htexts⟩ := piecesText_eq_ok_iff.mp hout
    exact ⟨pieces, texts, hcuts, htexts⟩

/-- The pieces of a pattern are expanded in order, and then the text behind it, provided that this
text does not go on with a bare name. -/
theorem expand_append {cs : List Char} {pieces : List Piece} (h : Cuts cs pieces)
    {rest : List Char} (hrest : ∀ c ∈ rest.head?, isNameChar c = false) :
    expand templates (cs ++ rest) = inOrder (piecesText templates pieces) (expand templates rest) := by
  induction h with
  | nil => rw [List.nil_append, piecesText, nil_inOrder]
  | char hc _ ih =>
    rw [List.cons_append, expand_char hc, ih, piecesText, inOrder_assoc]
    rfl
  | dollar _ ih =>
    rw [List.cons_append, List.cons_append, expand_dollar, ih, piecesText, inOrder_assoc]
    rfl
  | braced hname _ ih =>
    rw [List.cons_append, List.cons_append, List.append_assoc, List.cons_append,
      expand_braced (not_mem_name hname), if_pos hname, ih, piecesText, inOrder_assoc]
    rfl
  | @bare name cs _ hname hend _ ih =>
    have hhead : ∀ c ∈ (cs ++ rest).head?, isNameChar c = false := by
      cases cs with
      | nil => exact hrest
      | cons c cs => exact hend
    rw [List.cons_append, List.append_assoc, expand_bare hname hhead, ih, piecesText, inOrder_assoc]
    rfl

theorem expand_of_cuts {cs : List Char} {pieces : List Piece} (h : Cuts cs pieces) :
    expand templates cs = piecesText templates pieces := by
  have hend : expand templates [] = .ok [] := rfl
  have happend : expand templates (cs ++ []) = _ := expand_append h (by simp)
  rwa [List.append_nil, hend, inOrder_nil] at happend

theorem expand_of_shows {cs out : List Char} (h : Shows templates cs out) :
    expand templates cs = .ok out := by
  obtain ⟨pieces, hcuts, hout⟩ := shows_iff.mp h
  rw [expand_of_cuts hcuts, hout]

theorem expand_of_stuck {cs : List Char} {e : PlaceholderError} (h : Stuck templates cs e) :
    expand templates cs = .error e := by
  obtain ⟨front, rest, shown, rfl, hshows, hbroken⟩ := h
  obtain ⟨pieces, hcuts, hout⟩ := shows_iff.mp hshows
  rw [expand_append hcuts (by simp; decide), hout, expand_broken hbroken]
  rfl

/-! ## Every pattern -/

/-- A pattern is cut to its end, or up to a dollar sign that starts no piece. -/
def Decided (templates : Templates) (cs : List Char) : Prop :=
  (∃ out, Shows templates cs out) ∨ ∃ e, Stuck templates cs e

/-- A piece in front of a pattern does not change how far it is cut. -/
theorem Decided.cons {cs text : List Char} (h : Decided templates cs) (piece : Piece)
    (written : List Char) (htext : piece.text templates = .ok text)
    (hcut : ∀ front pieces, (∀ c ∈ front.head?, c ∈ cs.head?) → Cuts front pieces →
      Cuts (written ++ front) (piece :: pieces)) : Decided templates (written ++ cs) := by
  rcases h with ⟨out, hshows⟩ | ⟨e, front, rest, shown, rfl, hshows, hbroken⟩
  · exact .inl ⟨text ++ out, hshows.cons htext fun pieces => hcut cs pieces fun _ hc => hc⟩
  · have hhead : ∀ c ∈ front.head?, c ∈ (front ++ '$' :: rest).head? := by
      cases front with
      | nil => simp
      | cons c front => exact fun _ hc => hc
    exact .inr ⟨e, written ++ front, rest, text ++ shown, by rw [List.append_assoc],
      hshows.cons htext fun pieces => hcut front pieces hhead, hbroken⟩

theorem Decided.broken {rest : List Char} {e : PlaceholderError} (h : Broken templates rest e) :
    Decided templates ('$' :: rest) :=
  .inr ⟨e, [], rest, [], rfl, ⟨[], [], .nil, .nil, rfl⟩, h⟩

theorem Decided.braced {name cs : List Char} (hname : isIdentifier name = true)
    (h : Decided templates cs) : Decided templates ('$' :: '\x7b' :: (name ++ '\x7d' :: cs)) := by
  cases hl : templates.lookup (String.ofList name) with
  | none => exact .broken (.bracedUnknown cs hname hl)
  | some template =>
    have hcons := h.cons (.value name) ('$' :: '\x7b' :: (name ++ ['\x7d']))
      (lookUp_eq_ok_iff.mpr ⟨template, hl, rfl⟩) fun front pieces _ hcuts => by
        simpa using Cuts.braced hname hcuts
    simpa using hcons

theorem Decided.bare {name cs : List Char} (hname : isIdentifier name = true)
    (hend : ∀ c ∈ cs.head?, isNameChar c = false) (h : Decided templates cs) :
    Decided templates ('$' :: (name ++ cs)) := by
  cases hl : templates.lookup (String.ofList name) with
  | none => exact .broken (.bareUnknown hname hend hl)
  | some template =>
    exact h.cons (.value name) ('$' :: name) (lookUp_eq_ok_iff.mpr ⟨template, hl, rfl⟩)
      fun front pieces hhead hcuts => .bare hname (fun c hc => hend c (hhead c hc)) hcuts

/-- A bare name is the longest one that stands there. -/
theorem exists_bare {c : Char} (hc : isNameStart c = true) (cs : List Char) :
    ∃ name rest, c :: cs = name ++ rest ∧ isIdentifier name = true ∧
      (∀ d ∈ rest.head?, isNameChar d = false) ∧ rest.length ≤ cs.length := by
  refine ⟨c :: cs.takeWhile isNameChar, cs.dropWhile isNameChar, ?_, ?_, ?_, ?_⟩
  · rw [List.cons_append, List.takeWhile_append_dropWhile]
  · simp [isIdentifier, hc]
  · intro d hd
    have hhead := List.head?_dropWhile_not isNameChar cs
    rw [Option.mem_def.mp hd] at hhead
    simpa using hhead
  · exact (List.dropWhile_suffix isNameChar).length_le

theorem decided (templates : Templates) (cs : List Char) : Decided templates cs := by
  -- a piece takes at least one character, and what follows it is shorter
  induction hn : cs.length using Nat.strongRecOn generalizing cs with
  | _ n ih =>
    subst hn
    have ih : ∀ rest : List Char, rest.length < cs.length → Decided templates rest :=
      fun rest hlt => ih rest.length hlt rest rfl
    cases cs with
    | nil => exact .inl ⟨[], [], [], .nil, .nil, rfl⟩
    | cons c cs =>
      by_cases hc : c = '$'
      swap
      · exact (ih cs (by simp)).cons (.char c) [c] rfl fun front pieces _ hcuts => .char hc hcuts
      subst hc
      cases cs with
      | nil => exact .broken .atEnd
      | cons d cs =>
        by_cases hdollar : d = '$'
        · subst hdollar
          exact (ih cs (by simp only [List.length_cons]; omega)).cons .dollar ['$', '$'] rfl
            fun front pieces _ hcuts => .dollar hcuts
        by_cases hbrace : d = '\x7b'
        · subst hbrace
          by_cases hclose : '\x7d' ∈ cs
          · obtain ⟨name, rest, rfl, hname⟩ := List.eq_append_cons_of_mem hclose
            cases hid : isIdentifier name with
            | false => exact .broken (.noName rest hname hid)
            | true => exact .braced hid (ih rest (by simp; omega))
          · exact .broken (.unclosed hclose)
        cases hstart : isNameStart d with
        | false => exact .broken (.sign cs hdollar hbrace hstart)
        | true =>
          obtain ⟨name, rest, hcs, hname, hend, hle⟩ := exists_bare hstart cs
          rw [hcs]
          exact .bare hname hend (ih rest (by simp; omega))

theorem shows_of_expand {cs out : List Char} (h : expand templates cs = .ok out) :
    Shows templates cs out := by
  rcases decided templates cs with ⟨out', hshows⟩ | ⟨e, hstuck⟩
  · rw [expand_of_shows hshows] at h
    cases h
    exact hshows
  · rw [expand_of_stuck hstuck] at h
    cases h

theorem stuck_of_expand {cs : List Char} {e : PlaceholderError}
    (h : expand templates cs = .error e) : Stuck templates cs e := by
  rcases decided templates cs with ⟨out, hshows⟩ | ⟨e', hstuck⟩
  · rw [expand_of_shows hshows] at h
    cases h
  · rw [expand_of_stuck hstuck] at h
    cases h
    exact hstuck

theorem shows_doubleDollars (templates : Templates) (text : List Char) :
    Shows templates (doubleDollars text) text := by
  induction text with
  | nil => exact ⟨[], [], .nil, .nil, rfl⟩
  | cons c text ih =>
    rw [doubleDollars, List.flatMap_cons]
    split
    · rename_i hc
      subst hc
      exact ih.cons Piece.text_dollar fun _ => .dollar
    · rename_i hc
      exact ih.cons (Piece.text_char c) fun _ => .char hc

/-- **The grammar of patterns.** A pattern is expanded if it is a sequence of characters, doubled
dollar signs and placeholders of declared values, and then each piece is replaced by its text. It is
an error if a dollar sign starts none of these, and the first such one tells the error. Wherever it
stands, such a dollar sign is never copied; a doubled one always is, once. -/
theorem expand_grammar (templates : Templates) (pattern : List Char) :
    (∀ out, expand templates pattern = .ok out ↔ Shows templates pattern out) ∧
    (∀ e, expand templates pattern = .error e ↔ Stuck templates pattern e) ∧
    (∀ front rest pieces e, pattern = front ++ '$' :: rest → Cuts front pieces →
      Broken templates rest e → ∃ e', expand templates pattern = .error e') ∧
    expand templates (doubleDollars pattern) = .ok pattern := by
  refine ⟨fun out => ⟨shows_of_expand, expand_of_shows⟩,
    fun e => ⟨stuck_of_expand, expand_of_stuck⟩, ?_,
    expand_of_shows (shows_doubleDollars templates pattern)⟩
  rintro front rest pieces e rfl hcuts hbroken
  rw [expand_append hcuts (by simp; decide), expand_broken hbroken]
  cases piecesText templates pieces with
  | error e' => exact ⟨e', rfl⟩
  | ok shown => exact ⟨e, rfl⟩

def interfaceTemplates : Templates := [("Interface", "(?P<Interface>\\S+)")]

/-- The dollar sign at the end is doubled in the first pattern, and stands alone in the second. -/
theorem expand_grammar_interface :
    expand interfaceTemplates "^$Interface ${Interface}$$".toList =
      .ok "^(?P<Interface>\\S+) (?P<Interface>\\S+)$".toList ∧
    expand interfaceTemplates "^$Interface$".toList = .error .invalid := by
  have hname : isIdentifier "Interface".toList = true := by decide
  have hinterface : Piece.text interfaceTemplates (.value "Interface".toList) =
      .ok "(?P<Interface>\\S+)".toList := rfl
  have hnil : Shows interfaceTemplates [] [] := ⟨[], [], .nil, .nil, rfl⟩
  have hend := hnil.cons Piece.text_dollar fun _ => .dollar
  have hbraced := hend.cons hinterface fun _ => .braced hname
  have hspace := hbraced.cons (Piece.text_char ' ') fun _ => .char (by decide)
  have hbare := hspace.cons hinterface fun _ => .bare hname (by rintro _ ⟨⟩; decide)
  have hall := hbare.cons (Piece.text_char '^') fun _ => .char (by decide)
  have hlast := hnil.cons hinterface fun _ => .bare hname (by simp)
  have hfront := hlast.cons (Piece.text_char '^') fun _ => .char (by decide)
  exact ⟨((expand_grammar interfaceTemplates _).1 _).mpr hall,
    ((expand_grammar interfaceTemplates _).2.1 _).mpr ⟨_, [], _, rfl, hfront, .atEnd⟩⟩

end TemplateBench.TextFsm
