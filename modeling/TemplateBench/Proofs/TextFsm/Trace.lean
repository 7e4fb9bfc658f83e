import TemplateBench.TextFsm.Run

/-!
A run as a sequence of events.

* `Template.trace` reads off a text which rules act on which line: what they assign, what they do
  to the record, and how it all ends. It follows states only, and knows neither cells nor rows.
* `readLines_eq_play`: a run is the play of its events, which alone change cells and rows.
* `parse_eq_play`: so parsing a text is playing its trace.
-/
namespace TemplateBench.TextFsm
open Text

/-! ## Events -/

inductive Event
  /-- The value in a column gets a capture, or learns that its group took no part. -/
  | assign (column : Nat) (captured : Option String)
  | record
  | clear
  | clearAll
  deriving DecidableEq, Repr, Inhabited

namespace Run

def apply (t : Template) (run : Run) : Event → Run
  | .assign column captured =>
    match t.values[column]? with
    | some d => run.assign d column captured
    | none => run
  | .record => run.record t
  | .clear => run.clear t
  | .clearAll => run.clearAll t

def play (t : Template) (run : Run) (events : List Event) : Run := events.foldl (apply t) run

theorem play_append (t : Template) (run : Run) (events more : List Event) :
    run.play t (events ++ more) = (run.play t events).play t more :=
  List.foldl_append

theorem assign_cells (d : Declaration) (column : Nat) (captured : Option String) (run : Run) :
    (run.assign d column captured).cells = run.cells.modify column (Cell.assign d captured) := by
  unfold assign
  dsimp only
  split <;> rfl

/-! Events neither read nor change the state of a run. -/

theorem record_withState (t : Template) (run : Run) (state : String) :
    ({ run with state } : Run).record t = { run.record t with state } := by
  unfold record
  split
  · rfl
  · dsimp only
    split
    · rfl
    · split <;> rfl

theorem assign_withState (d : Declaration) (column : Nat) (captured : Option String) (run : Run)
    (state : String) :
    ({ run with state } : Run).assign d column captured =
      { run.assign d column captured with state } := by
  unfold assign
  dsimp only
  split <;> rfl

theorem apply_withState (t : Template) (run : Run) (state : String) (e : Event) :
    ({ run with state } : Run).apply t e = { run.apply t e with state } := by
  cases e with
  | assign column captured =>
    cases hd : t.values[column]? with
    | none => simp [apply, hd]
    | some d => simpa [apply, hd] using assign_withState d column captured run state
  | record => exact record_withState t run state
  | clear => rfl
  | clearAll => rfl

theorem play_withState (t : Template) (run : Run) (state : String) (events : List Event) :
    ({ run with state } : Run).play t events = { run.play t events with state } := by
  induction events generalizing run with
  | nil => rfl
  | cons e rest ih =>
    simp only [play, List.foldl_cons, apply_withState] at ih ⊢
    exact ih (run.apply t e)

theorem play_state (t : Template) (run : Run) (events : List Event) :
    (run.play t events).state = run.state :=
  (congrArg Run.state (play_withState t run run.state events)).trans rfl

end Run

/-! ## Events of a line -/

/-- The captures of the groups that are values, in the order of the groups. -/
def captureEvents (t : Template) (groups : List (String × Option String)) : List Event :=
  groups.filterMap fun (name, captured) =>
    (t.values.findIdx? (·.name == name)).map fun column => .assign column captured

def RecordOp.events : RecordOp → List Event
  | .noRecord => []
  | .record => [.record]
  | .clear => [.clear]
  | .clearAll => [.clearAll]

def ruleEvents (t : Template) (line : List Char) : Rule × Regex.Match → List Event
  | (rule, m) =>
    captureEvents t (rule.regex.namedGroups line m) ++ rule.action.recordOp.events

/-- The rules that match a line, in order, up to the first one that does not go on. -/
def acting (line : List Char) : List Rule → List (Rule × Regex.Match)
  | [] => []
  | rule :: rest =>
    match rule.regex.find? line with
    | none => acting line rest
    | some m => if rule.action.lineOp = .resume then (rule, m) :: acting line rest else [(rule, m)]

def stateAfter (t : Template) (state : String) : Option String → String
  | none => state
  | some target =>
    if t.states.any (·.1 == target) then target
    else if target == "EOF" then "EOF" else "End"

/-- The state after a line: the last rule that acts on it may move on or reject it. -/
def lineResult (t : Template) (line : List Char) (state : String)
    (acts : List (Rule × Regex.Match)) : Except Rejection String :=
  match acts.getLast? with
  | none => .ok state
  | some (rule, _) =>
    match rule.action.lineOp with
    | .reject => .error ⟨rule.action.target, rule.lineNumber, String.ofList line⟩
    | .resume => .ok state
    | .next => .ok (stateAfter t state rule.action.target)

theorem lineResult_resume (t : Template) (line : List Char) (state : String) (rule : Rule)
    (m : Regex.Match) (acts : List (Rule × Regex.Match)) (h : rule.action.lineOp = .resume) :
    lineResult t line state ((rule, m) :: acts) = lineResult t line state acts := by
  cases acts with
  | nil => simp [lineResult, h]
  | cons act rest => simp [lineResult]

/-! ## Traces -/

structure Trace where
  events : List Event
  /-- The state in which reading ends, or the rejection that ends it. -/
  result : Except Rejection String

def traceLines (t : Template) : String → List (List Char) → Trace
  | state, [] => ⟨[], .ok state⟩
  | state, line :: rest =>
    let acts := acting line ((t.states.lookup state).getD [])
    let events := acts.flatMap (ruleEvents t line)
    match lineResult t line state acts with
    | .error rejection => ⟨events, .error rejection⟩
    | .ok next =>
      if isStop next then ⟨events, .ok next⟩
      else
        let more := traceLines t next rest
        ⟨events ++ more.events, more.result⟩

/-- The record that the end of the text makes. -/
def closingEvents (t : Template) (state : String) : List Event :=
  if state != "End" && !t.states.any (·.1 == "EOF") then [.record] else []

/-- The events of a text, the closing record included. -/
def Template.trace (t : Template) (source : String) : Trace :=
  let read := traceLines t "Start" (lines source.toList)
  match read.result with
  | .error _ => read
  | .ok state => { read with events := read.events ++ closingEvents t state }

/-! ## Runs play traces -/

namespace Run

theorem moveTo_eq (t : Template) (target : Option String) (run : Run) :
    run.moveTo t target = { run with state := stateAfter t run.state target } := by
  cases target with
  | none => rfl
  | some target =>
    unfold moveTo stateAfter
    dsimp only
    split <;> rfl

theorem foldl_assignNamed (t : Template) (groups : List (String × Option String)) (run : Run) :
    groups.foldl (assignNamed t) run = run.play t (captureEvents t groups) := by
  induction groups generalizing run with
  | nil => rfl
  | cons group rest ih =>
    obtain ⟨name, captured⟩ := group
    rw [List.foldl_cons, ih]
    cases hc : t.values.findIdx? (·.name == name) with
    | none => simp [captureEvents, assignNamed, hc]
    | some column =>
      cases hd : t.values[column]? with
      | none => simp [captureEvents, assignNamed, hc, hd, play, apply]
      | some d => simp [captureEvents, assignNamed, hc, hd, play, apply]

theorem applyRule_eq (t : Template) (rule : Rule) (line : List Char) (m : Regex.Match)
    (run : Run) : run.applyRule t rule line m = run.play t (ruleEvents t line (rule, m)) := by
  unfold applyRule ruleEvents
  rw [foldl_assignNamed, play_append]
  cases rule.action.recordOp <;> rfl

theorem tryRules_eq_play (t : Template) (line : List Char) (rules : List Rule) (run : Run) :
    tryRules t line rules run =
      (lineResult t line run.state (acting line rules)).map fun state =>
        { run.play t ((acting line rules).flatMap (ruleEvents t line)) with state } := by
  induction rules generalizing run with
  | nil => rfl
  | cons rule rest ih =>
    cases hm : rule.regex.find? line with
    | none => simp [tryRules, acting, hm, ih]
    | some m =>
      simp only [tryRules, acting, hm, applyRule_eq]
      cases ho : rule.action.lineOp with
      | reject => simp [lineResult, ho, Except.map]
      | next => simp [lineResult, ho, Except.map, moveTo_eq, play_state]
      | resume =>
        simp only [↓reduceIte, ih, play_state, lineResult_resume t line run.state rule m _ ho,
          List.flatMap_cons, play_append]

theorem checkLine_eq_play (t : Template) (line : List Char) (run : Run) :
    checkLine t line run =
      (lineResult t line run.state (acting line ((t.states.lookup run.state).getD []))).map
        fun state => { run.play t ((acting line ((t.states.lookup run.state).getD [])).flatMap
          (ruleEvents t line)) with state } := by
  unfold checkLine
  cases t.states.lookup run.state with
  | none => rfl
  | some rules => exact tryRules_eq_play t line rules run

/-- **Runs play traces.** Cells and rows change by the events of the trace only. -/
theorem readLines_eq_play (t : Template) (lines : List (List Char)) (run : Run) :
    readLines t lines run =
      (traceLines t run.state lines).result.map fun state =>
        { run.play t (traceLines t run.state lines).events with state } := by
  induction lines generalizing run with
  | nil => rfl
  | cons line rest ih =>
    simp only [readLines, traceLines, checkLine_eq_play]
    cases lineResult t line run.state (acting line ((t.states.lookup run.state).getD [])) with
    | error rejection => rfl
    | ok next =>
      simp only [Except.map, bind, Except.bind]
      cases hs : isStop next with
      | true => rfl
      | false =>
        simp only [Bool.false_eq_true, ↓reduceIte, ih, play_append, play_withState]
        cases (traceLines t next rest).result <;> rfl

theorem finish_eq_play (t : Template) (run : Run) :
    run.finish t = run.play t (closingEvents t run.state) := by
  unfold finish closingEvents
  split <;> rfl

end Run

/-- **Parsing plays the trace of the text.** -/
theorem parse_eq_play (t : Template) (source : String) :
    t.parse source =
      (t.trace source).result.map fun _ =>
        ⟨t.header, ((Run.start t).play t (t.trace source).events).rows⟩ := by
  have hread := Run.readLines_eq_play t (lines source.toList) (Run.start t)
  simp only [Template.parse, Template.trace, hread]
  change (Except.map _ (traceLines t "Start" (lines source.toList)).result >>= _) = _
  cases hr : (traceLines t "Start" (lines source.toList)).result with
  | error rejection => simp [Except.map, bind, Except.bind, hr]
  | ok state =>
    simp only [Except.map, bind, Except.bind, Run.finish_eq_play, Run.play_withState,
      Run.play_append]
    rfl

/-- A text whose trace is known and ends in no rejection gives the rows that its events make. -/
theorem parse_of_events {t : Template} {source : String} {events : List Event}
    (he : (t.trace source).events = events) (hr : (t.trace source).result.isOk = true) :
    t.parse source = .ok ⟨t.header, ((Run.start t).play t events).rows⟩ := by
  rw [parse_eq_play, he]
  cases hs : (t.trace source).result with
  | error rejection =>
    rw [hs] at hr
    cases hr
  | ok state => rfl

end TemplateBench.TextFsm
