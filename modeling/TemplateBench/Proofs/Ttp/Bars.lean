import TemplateBench.Proofs.Text.Bytes
import TemplateBench.Ttp.Placeholder

/-!
The bars of a placeholder that stand outside quotations.

* `Closed`: a text all of whose quotations are closed. A bar stands outside quotations if the text
  before it is closed (`BarBehind`).
* `closed_iff`: whether a text is closed is told by reading it once (`openAfter`).
* `splitPipesFrom_append`: text without such a bar is left whole.
* `mem_bars_iff`, `cut?_barsFrom`: `bars` are the bytes of all such bars, and cutting a text there
  gives its pieces.
* `splitPipes_bars`: so pieces joined by bars are split again, and every text is cut at its bars.
-/
namespace TemplateBench.Ttp
open Text

/-! ## Quotations -/

def IsQuote (c : Char) : Prop := c = '"' ∨ c = '\''

instance (c : Char) : Decidable (IsQuote c) := inferInstanceAs (Decidable (_ ∨ _))

/-- All quotations are closed: a quotation mark opens one, which the next one of its kind closes. -/
inductive Closed : List Char → Prop
  | nil : Closed []
  | plain {c : Char} {rest : List Char} : ¬ IsQuote c → Closed rest → Closed (c :: rest)
  | quotation {q : Char} {inner rest : List Char} : IsQuote q → q ∉ inner → Closed rest →
      Closed (q :: (inner ++ q :: rest))

/-- The quotation mark that is open behind one more character. -/
def nextQuote : Option Char → Char → Option Char
  | none, c => if c = '"' || c = '\'' then some c else none
  | some q, c => if c = q then none else some q

/-- The quotation mark that is open behind a text. -/
def openAfter (quote : Option Char) (cs : List Char) : Option Char := cs.foldl nextQuote quote

@[simp]
theorem openAfter_nil (quote : Option Char) : openAfter quote [] = quote := rfl

@[simp]
theorem openAfter_cons (quote : Option Char) (c : Char) (cs : List Char) :
    openAfter quote (c :: cs) = openAfter (nextQuote quote c) cs := rfl

theorem openAfter_append (quote : Option Char) (cs ds : List Char) :
    openAfter quote (cs ++ ds) = openAfter (openAfter quote cs) ds := List.foldl_append

theorem nextQuote_of_isQuote {c : Char} (h : IsQuote c) : nextQuote none c = some c :=
  if_pos (by simpa [IsQuote] using h)

theorem nextQuote_of_not_isQuote {c : Char} (h : ¬ IsQuote c) : nextQuote none c = none :=
  if_neg (by simpa [IsQuote] using h)

theorem openAfter_inside {q : Char} {inner : List Char} (h : q ∉ inner) :
    openAfter (some q) inner = some q := by
  induction inner with
  | nil => rfl
  | cons c inner ih =>
    obtain ⟨hc, hinner⟩ := not_or.mp (mt List.mem_cons.mpr h)
    rw [openAfter_cons, nextQuote, if_neg (Ne.symm hc), ih hinner]

theorem openAfter_quotation {q : Char} {inner : List Char} (hq : IsQuote q) (h : q ∉ inner)
    (rest : List Char) : openAfter none (q :: (inner ++ q :: rest)) = openAfter none rest := by
  rw [openAfter_cons, nextQuote_of_isQuote hq, openAfter_append, openAfter_inside h,
    openAfter_cons, nextQuote, if_pos rfl]

theorem closed_of_openAfter (cs : List Char) (h : openAfter none cs = none) : Closed cs := by
  match cs with
  | [] => exact .nil
  | c :: rest =>
    by_cases hc : IsQuote c
    · -- The quotation ends, as its mark would still be open otherwise; what follows it is shorter.
      have hmem : c ∈ rest := Classical.byContradiction fun hmem => by
        rw [openAfter_cons, nextQuote_of_isQuote hc, openAfter_inside hmem] at h
        cases h
      obtain ⟨inner, rest', hrest, hinner⟩ := List.eq_append_cons_of_mem hmem
      rw [hrest, openAfter_quotation hc hinner] at h
      have hshorter : rest'.length < rest.length := by simp [hrest]; omega
      rw [hrest]
      exact .quotation hc hinner (closed_of_openAfter rest' h)
    · rw [openAfter_cons, nextQuote_of_not_isQuote hc] at h
      exact .plain hc (closed_of_openAfter rest h)
  termination_by cs.length

theorem closed_iff {cs : List Char} : Closed cs ↔ openAfter none cs = none := by
  refine ⟨fun h => ?_, closed_of_openAfter cs⟩
  induction h with
  | nil => rfl
  | plain hc _ ih => rwa [openAfter_cons, nextQuote_of_not_isQuote hc]
  | quotation hq hinner _ ih => rwa [openAfter_quotation hq hinner]

/-! ## Pieces -/

/-- A bar outside quotations stands behind a beginning of a text. -/
def BarBehind (front body : List Char) : Prop := Closed front ∧ front ++ ['|'] <+: body

/-- A text whose quotations are closed and hold all its bars. -/
def IsPiece (piece : List Char) : Prop := Closed piece ∧ ∀ front, ¬ BarBehind front piece

/-- A bar outside quotations, of which one may be open before the text. -/
def FreeBar (quote : Option Char) (front body : List Char) : Prop :=
  openAfter quote front = none ∧ front ++ ['|'] <+: body

theorem barBehind_iff {front body : List Char} : BarBehind front body ↔ FreeBar none front body :=
  and_congr_left fun _ => closed_iff

@[simp]
theorem not_freeBar_nil (quote : Option Char) (front : List Char) : ¬ FreeBar quote front [] :=
  fun h => by simpa using h.2

@[simp]
theorem freeBar_nil_iff {quote : Option Char} {c : Char} {rest : List Char} :
    FreeBar quote [] (c :: rest) ↔ quote = none ∧ c = '|' := by
  simp [FreeBar, eq_comm]

@[simp]
theorem freeBar_cons_iff {quote : Option Char} {c d : Char} {front rest : List Char} :
    FreeBar quote (d :: front) (c :: rest) ↔ d = c ∧ FreeBar (nextQuote quote c) front rest := by
  rw [FreeBar, FreeBar, openAfter_cons, List.cons_append, List.cons_prefix_cons]
  constructor
  · rintro ⟨hopen, rfl, hfront⟩
    exact ⟨rfl, hopen, hfront⟩
  · rintro ⟨rfl, hopen, hfront⟩
    exact ⟨hopen, rfl, hfront⟩

theorem splitPipesFrom_ne_nil (quote : Option Char) (cs : List Char) :
    splitPipesFrom quote cs ≠ [] := by
  cases cs with
  | nil => exact List.cons_ne_nil [] []
  | cons c rest =>
    unfold splitPipesFrom
    dsimp only
    repeat' split
    all_goals exact List.cons_ne_nil _ _

theorem modifyHead_nil_append (pieces : List (List Char)) :
    pieces.modifyHead ([] ++ ·) = pieces := congrFun List.modifyHead_id pieces

theorem splitPipesFrom_bar (rest : List Char) :
    splitPipesFrom none ('|' :: rest) = [] :: splitPipesFrom none rest := rfl

/-- Any other character, or a bar inside a quotation, joins the piece behind it. -/
theorem splitPipesFrom_cons {quote : Option Char} {c : Char} (h : ¬ (quote = none ∧ c = '|'))
    (rest : List Char) : splitPipesFrom quote (c :: rest) =
      (splitPipesFrom (nextQuote quote c) rest).modifyHead (c :: ·) := by
  obtain ⟨piece, pieces, hpieces⟩ :=
    List.exists_cons_of_ne_nil (splitPipesFrom_ne_nil (nextQuote quote c) rest)
  rw [hpieces, List.modifyHead_cons]
  cases quote with
  | none =>
    rw [nextQuote] at hpieces
    rw [splitPipesFrom, if_neg fun hc => h ⟨rfl, hc⟩, hpieces]
  | some q =>
    rw [nextQuote] at hpieces
    rw [splitPipesFrom, hpieces]

/-- A text is left whole up to where no quotation is open, unless a bar stands before that. -/
theorem splitPipesFrom_append {piece : List Char} {quote : Option Char}
    (hend : openAfter quote piece = none) (hbars : ∀ front, ¬ FreeBar quote front piece)
    (rest : List Char) : splitPipesFrom quote (piece ++ rest) =
      (splitPipesFrom none rest).modifyHead (piece ++ ·) := by
  induction piece generalizing quote with
  | nil =>
    obtain rfl : quote = none := hend
    exact (modifyHead_nil_append _).symm
  | cons c piece ih =>
    have hc : ¬ (quote = none ∧ c = '|') := fun hc => hbars [] (freeBar_nil_iff.mpr hc)
    have hpiece : ∀ front, ¬ FreeBar (nextQuote quote c) front piece := fun front hfront =>
      hbars (c :: front) (freeBar_cons_iff.mpr ⟨rfl, hfront⟩)
    rw [List.cons_append, splitPipesFrom_cons hc, ih hend hpiece, List.modifyHead_modifyHead]
    rfl

theorem IsPiece.splitPipesFrom_append {piece : List Char} (h : IsPiece piece) (rest : List Char) :
    splitPipesFrom none (piece ++ rest) = (splitPipesFrom none rest).modifyHead (piece ++ ·) :=
  Ttp.splitPipesFrom_append (closed_iff.mp h.1)
    (fun front hfront => h.2 front (barBehind_iff.mpr hfront)) rest

theorem splitPipesFrom_join {pieces : List (List Char)} (hne : pieces ≠ [])
    (h : ∀ piece ∈ pieces, IsPiece piece) : splitPipesFrom none (join ['|'] pieces) = pieces := by
  fun_induction join ['|'] pieces with
  | case1 => contradiction
  | case2 piece =>
    have hpiece := (h piece (by simp)).splitPipesFrom_append []
    simpa [splitPipesFrom] using hpiece
  | case3 piece pieces hmore ih =>
    obtain ⟨hpiece, hpieces⟩ := List.forall_mem_cons.mp h
    rw [List.append_assoc, hpiece.splitPipesFrom_append, List.singleton_append,
      splitPipesFrom_bar, ih hmore hpieces]
    simp

/-! ## Bars -/

/-- The bytes at which the bars outside quotations stand, for a text behind so many bytes. -/
def barsFrom (quote : Option Char) (offset : Nat) : List Char → List Nat
  | [] => []
  | c :: rest =>
    let more := barsFrom (nextQuote quote c) (offset + c.utf8Size) rest
    if quote = none ∧ c = '|' then offset :: more else more

def bars (body : String) : List Nat := barsFrom none 0 body.toList

theorem mem_barsFrom_iff {cs : List Char} {quote : Option Char} {offset p : Nat} :
    p ∈ barsFrom quote offset cs ↔
      ∃ front, FreeBar quote front cs ∧ p = offset + byteLength front := by
  induction cs generalizing quote offset with
  | nil => simp [barsFrom]
  | cons c rest ih =>
    -- The first bar is at the first character, or the text before it begins with that.
    have hbars : (∃ front, FreeBar quote front (c :: rest) ∧ p = offset + byteLength front) ↔
        ((quote = none ∧ c = '|') ∧ p = offset) ∨
          p ∈ barsFrom (nextQuote quote c) (offset + c.utf8Size) rest := by
      rw [ih]
      constructor
      · rintro ⟨front, hfront, hp⟩
        cases front with
        | nil => exact .inl ⟨freeBar_nil_iff.mp hfront, hp⟩
        | cons d front =>
          obtain ⟨rfl, hfront⟩ := freeBar_cons_iff.mp hfront
          exact .inr ⟨front, hfront, by rw [hp, byteLength_cons, Nat.add_assoc]⟩
      · rintro (⟨hc, rfl⟩ | ⟨front, hfront, rfl⟩)
        · exact ⟨[], freeBar_nil_iff.mpr hc, rfl⟩
        · exact ⟨c :: front, freeBar_cons_iff.mpr ⟨rfl, hfront⟩,
            by rw [byteLength_cons, Nat.add_assoc]⟩
    rw [hbars, barsFrom]
    split
    · simp [*]
    · simp [*]

theorem barsFrom_increasing (cs : List Char) (quote : Option Char) (offset : Nat) :
    (barsFrom quote offset cs).Pairwise (· < ·) := by
  induction cs generalizing quote offset with
  | nil => exact .nil
  | cons c rest ih =>
    rw [barsFrom]
    split
    · refine List.pairwise_cons.mpr ⟨fun p hp => ?_, ih _ _⟩
      obtain ⟨front, _, rfl⟩ := mem_barsFrom_iff.mp hp
      have := c.utf8Size_pos
      omega
    · exact ih _ _

/-- Cutting a text at the bars of its rest gives the pieces of that, of which the first one has
begun before. -/
theorem cut?_barsFrom (done begun rest : List Char) (quote : Option Char) :
    cut? (String.ofList (done ++ (begun ++ rest))) (byteLength done)
        (barsFrom quote (byteLength done + byteLength begun) rest) =
      some (((splitPipesFrom quote rest).modifyHead (begun ++ ·)).map String.ofList) := by
  induction rest generalizing done begun quote with
  | nil =>
    have hlast := slice?_append done begun []
    rw [List.append_nil, ← byteLength_append] at hlast
    rw [List.append_nil, barsFrom, cut?, utf8ByteSize_ofList, hlast, splitPipesFrom]
    simp
  | cons c rest ih =>
    by_cases hc : quote = none ∧ c = '|'
    · -- The piece ends here, and the next one begins behind the byte of the bar.
      obtain ⟨rfl, rfl⟩ := hc
      have hbar : '|'.utf8Size = 1 := by decide
      have hnext := ih (done ++ (begun ++ ['|'])) [] none
      rw [modifyHead_nil_append] at hnext
      simp only [List.append_assoc, List.singleton_append, List.nil_append, byteLength_append,
        byteLength_cons, byteLength_nil, hbar, Nat.add_zero, ← Nat.add_assoc] at hnext
      rw [barsFrom, if_pos ⟨rfl, rfl⟩, cut?, slice?_append, splitPipesFrom_bar, hbar]
      simp only [Option.bind_eq_bind, Option.bind_some, List.modifyHead_cons, List.append_nil]
      rw [nextQuote_of_not_isQuote (by decide), hnext]
      rfl
    · have hnext := ih done (begun ++ [c]) (nextQuote quote c)
      simp only [List.append_assoc, List.singleton_append, byteLength_append, byteLength_cons,
        byteLength_nil, Nat.add_zero, ← Nat.add_assoc] at hnext
      rw [barsFrom, if_neg hc, splitPipesFrom_cons hc, List.modifyHead_modifyHead]
      exact hnext

/-! ## Splitting -/

theorem mem_bars_iff {body : String} {p : Nat} :
    p ∈ bars body ↔ ∃ front, BarBehind front body.toList ∧ p = byteLength front := by
  simp only [bars, mem_barsFrom_iff, barBehind_iff, Nat.zero_add]

theorem isPiece_iff {piece : List Char} :
    IsPiece piece ↔ openAfter none piece = none ∧ barsFrom none 0 piece = [] := by
  rw [IsPiece, closed_iff, List.eq_nil_iff_forall_not_mem]
  simp only [mem_barsFrom_iff, barBehind_iff]
  refine and_congr_right fun _ => ⟨fun h p ⟨front, hfront, _⟩ => h front hfront,
    fun h front hfront => h _ ⟨front, hfront, rfl⟩⟩

instance (piece : List Char) : Decidable (IsPiece piece) := decidable_of_iff _ isPiece_iff.symm

/-- **Bars in quotations.** Pieces joined by bars are split again if their quotations are closed and
hold all their bars. Every text is cut at its bars outside quotations and nowhere else: each cut is
between two characters, and the pieces are the parts of the text between the bars, trimmed. -/
theorem splitPipes_bars :
    (∀ pieces : List (List Char), pieces ≠ [] → (∀ piece ∈ pieces, IsPiece piece) →
      splitPipes (join ['|'] pieces) = pieces.map trim) ∧
    ∀ body : String,
      (bars body).Pairwise (· < ·) ∧
      (∀ p, p ∈ bars body ↔ ∃ front, BarBehind front body.toList ∧ p = byteLength front) ∧
      ∃ parts, cut? body 0 (bars body) = some parts ∧
        splitPipes body.toList = parts.map fun part => trim part.toList := by
  refine ⟨fun pieces hne h => ?joined, fun body => ⟨barsFrom_increasing _ _ _,
    fun p => mem_bars_iff, (splitPipesFrom none body.toList).map String.ofList, ?cut, ?trimmed⟩⟩
  case joined => rw [splitPipes, splitPipesFrom_join hne h]
  case cut =>
    have hcut := cut?_barsFrom [] [] body.toList none
    rw [modifyHead_nil_append] at hcut
    simpa [bars] using hcut
  case trimmed => simp [splitPipes, Function.comp_def]

def routeItems : List (List Char) :=
  ["route ".toList, " re(\"'|\u00e9|\")".toList, [], "re('\"|')".toList]

/-- In the second text the last quotation is not closed. -/
theorem splitPipes_bars_route :
    splitPipes (join ['|'] routeItems) = routeItems.map trim ∧
    ∃ parts, cut? "\u00e9 |re('a| b\"" 0 [3] = some parts ∧
      ["\u00e9".toList, "re('a| b\"".toList] = parts.map fun part => trim part.toList := by
  refine ⟨splitPipes_bars.1 routeItems (by decide) (by decide), ?_⟩
  have hbars : bars "\u00e9 |re('a| b\"" = [3] := by decide
  have hsplit : splitPipes "\u00e9 |re('a| b\"".toList =
      ["\u00e9".toList, "re('a| b\"".toList] := by decide
  obtain ⟨parts, hcut, hparts⟩ := (splitPipes_bars.2 "\u00e9 |re('a| b\"").2.2
  rw [hbars] at hcut
  rw [hsplit] at hparts
  exact ⟨parts, hcut, hparts⟩

end TemplateBench.Ttp
