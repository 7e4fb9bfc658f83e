import TemplateBench.TextFsm.Rule
import TemplateBench.Table

/-!
Templates: value declarations, a blank line, then states with their rules.

* `readValues` reads the declarations, `readStates` the states, each line once.
* `Template.check` demands the state `Start` and that every target is a state, `End` or `EOF`;
  `End` and `EOF` have no rules, and `End` is no state of its own.
* `Template.compile` reads a whole template.
-/
namespace TemplateBench.TextFsm
open Text

/-! ## Types -/

structure Template where
  values : List Declaration
  /-- The states in written order, with their rules. -/
  states : List (String × List Rule)
  deriving DecidableEq, Repr, Inhabited

inductive TemplateError
  | empty
  | value (cause : DeclarationError) (line : Nat)
  | duplicateValue (name : String) (line : Nat)
  | noValues
  | noBlankLine (line : Nat)
  | badStateName (name : String) (line : Nat)
  | duplicateState (name : String) (line : Nat)
  | notIndented (line : Nat)
  | rule (cause : RuleError)
  | noStart
  | reservedState (name : String)
  | unknownTarget (target state : String)
  deriving DecidableEq, Repr, Inhabited

def TemplateError.message : TemplateError → String
  | .empty => "Null template."
  | .value cause line => cause.message ++ " Line " ++ toString line ++ "."
  | .duplicateValue name line =>
    "Duplicate declarations for Value '" ++ name ++ "'. Line: " ++ toString line ++ "."
  | .noValues => "No Value definitions found."
  | .noBlankLine line =>
    "Expected blank line after last Value entry. Line: " ++ toString line ++ "."
  | .badStateName name line => "Invalid state name: '" ++ name ++ "'. Line: " ++ toString line
  | .duplicateState name line => "Duplicate state name: '" ++ name ++ "'. Line: " ++ toString line
  | .notIndented line =>
    "Missing white space or carat ('^') before rule. Line: " ++ toString line
  | .rule cause => cause.message
  | .noStart => "Missing state 'Start'."
  | .reservedState name => "Non-Empty '" ++ name ++ "' state."
  | .unknownTarget target state =>
    "State '" ++ target ++ "' not found, referenced in state '" ++ state ++ "'"

def TemplateError.report (e : TemplateError) : EngineError := ⟨.template, e.message⟩

/-- A line with its number, counted from one. -/
abbrev NumberedLine := Nat × List Char

def isComment (line : List Char) : Bool := (trimStart line).head? == some '#'

/-! ## Values -/

/-- The declarations up to the first blank line, and the lines after it. -/
def readValues (values : List Declaration) :
    List NumberedLine → Except TemplateError (List Declaration × List NumberedLine)
  | [] => .ok (values, [])
  | (number, raw) :: rest =>
    let line := trimEnd raw
    if line.isEmpty then .ok (values, rest)
    else if isComment line then readValues values rest
    else if startsWith line "Value ".toList then
      match Declaration.parse (String.ofList line) with
      | .error cause => .error (.value cause number)
      | .ok value =>
        if values.any (·.name == value.name) then .error (.duplicateValue value.name number)
        else readValues (values ++ [value]) rest
    else if values.isEmpty then .error .noValues
    else .error (.noBlankLine number)

def templatesOf (values : List Declaration) : Templates :=
  values.map fun value => (value.name, value.template)

/-! ## States -/

/-- Words of actions, which no state may be called. -/
def reservedWords : List String := lineOps.map (·.keyword) ++ recordOps.map (·.keyword)

def isUsableStateName (line : List Char) : Bool :=
  isStateName line && (String.ofList line).utf8ByteSize ≤ maxNameLength &&
    !reservedWords.contains (String.ofList line)

/-- A rule is indented by one or two spaces or a tab, and starts with a caret. -/
def isRuleLine (line : List Char) : Bool :=
  startsWith line [' ', '^'] || startsWith line [' ', ' ', '^'] || startsWith line ['\t', '^']

/-- Reads states; `current` is the one whose rules are being read. -/
def readStates (templates : Templates) (current : Option (String × List Rule))
    (states : List (String × List Rule)) :
    List NumberedLine → Except TemplateError (List (String × List Rule))
  | [] => .ok (states ++ current.toList)
  | (number, raw) :: rest =>
    let line := trimEnd raw
    match current with
    | none =>
      if line.isEmpty || isComment line then readStates templates none states rest
      else
        let name := String.ofList line
        if !isUsableStateName line then .error (.badStateName name number)
        else if states.any (·.1 == name) then .error (.duplicateState name number)
        else readStates templates (some (name, [])) states rest
    | some (name, rules) =>
      if line.isEmpty then readStates templates none (states ++ [(name, rules)]) rest
      else if isComment line then readStates templates current states rest
      else if !isRuleLine line then .error (.notIndented number)
      else
        match Rule.parse templates (String.ofList line) number with
        | .error cause => .error (.rule cause)
        | .ok rule => readStates templates (some (name, rules ++ [rule])) states rest

/-! ## Templates -/

def isStop (state : String) : Bool := state == "End" || state == "EOF"

/-- The first target of a state that is neither a state nor a stop. -/
def unknownTarget? (states : List (String × List Rule)) (rules : List Rule) : Option String :=
  rules.findSome? fun rule =>
    match rule.action.target with
    | some target =>
      if rule.action.lineOp = .reject || isStop target || states.any (·.1 == target) then none
      else some target
    | none => none

namespace Template

def check (t : Template) : Except TemplateError Template :=
  if !t.states.any (·.1 == "Start") then .error .noStart
  else
    match ["End", "EOF"].find? fun name => (t.states.lookup name).any (!·.isEmpty) with
    | some name => .error (.reservedState name)
    | none =>
      let states := t.states.filter (·.1 != "End")
      match states.findSome? fun (state, rules) =>
          (unknownTarget? states rules).map fun target => (target, state) with
      | some (target, state) => .error (.unknownTarget target state)
      | none => .ok { t with states }

def numbered (text : String) : List NumberedLine :=
  ((lines text.toList).zipIdx 1).map fun (line, number) => (number, line)

def compile (text : String) : Except TemplateError Template :=
  if text.isEmpty then .error .empty
  else do
    let (values, rest) ← readValues [] (numbered text)
    let states ← readStates (templatesOf values) none [] rest
    check ⟨values, states⟩

def header (t : Template) : List String := t.values.map (·.name)

def stateNames (t : Template) : List String := t.states.map (·.1)

def valuesWith (t : Template) (option : ValueOption) : List String :=
  (t.values.filter (·.has option)).map (·.name)

end Template

end TemplateBench.TextFsm
