import TemplateBench.TextFsm.Declaration
import TemplateBench.TextFsm.Placeholder
import TemplateBench.TextFsm.Action

/-!
Rules of a state: `^pattern -> action`.

`Rule.parse` reads one. Of several faults the first of these is reported: an empty rule, a bad
placeholder, a bad expression, a bad action, a target after `Continue`, a target that is no name.
-/
namespace TemplateBench.TextFsm
open Text

structure Rule where
  /-- The pattern as written. -/
  pattern : String
  /-- The pattern with its placeholders expanded, anchored at the start of the line. -/
  regex : Regex
  action : Action
  lineNumber : Nat
  deriving DecidableEq, Repr, Inhabited

inductive RuleFault
  | empty
  | placeholder (cause : PlaceholderError)
  | badRegex (expanded : String)
  | badAction (rule : String)
  | targetAfterContinue (target : String)
  | badTarget
  deriving DecidableEq, Repr, Inhabited

/-- A fault of the rule on a line of the template. -/
structure RuleError where
  fault : RuleFault
  lineNumber : Nat
  deriving DecidableEq, Repr, Inhabited

def RuleError.message (e : RuleError) : String :=
  let line := toString e.lineNumber
  match e.fault with
  | .empty => "Null data in FSMRule. Line: " ++ line
  | .placeholder .invalid => "Invalid placeholder in rule. Line: " ++ line ++ "."
  | .placeholder (.unknown name) =>
    "Duplicate or invalid variable substitution: '" ++ name ++ "'. Line: " ++ line ++ "."
  | .badRegex expanded => "Invalid regular expression: '" ++ expanded ++ "'. Line: " ++ line ++ "."
  | .badAction rule => "Badly formatted rule '" ++ rule ++ "'. Line: " ++ line ++ "."
  | .targetAfterContinue target =>
    "Action 'Continue' with new state " ++ target ++ " specified. Line: " ++ line ++ "."
  | .badTarget => "Alphanumeric characters only in state names. Line: " ++ line ++ "."

/-- A target goes with every operator but `Continue`, and is a name unless it is a message. -/
def Action.check (a : Action) : Except RuleFault Unit :=
  match a.target with
  | none => .ok ()
  | some target =>
    if a.lineOp = .resume then .error (.targetAfterContinue target)
    else if a.lineOp ≠ .reject && !isStateName target.toList then .error .badTarget
    else .ok ()

/-- The pattern of a rule with its placeholders expanded, compiled. -/
def compilePattern (templates : Templates) (pattern : List Char) : Except RuleFault Regex :=
  match expand templates pattern with
  | .error cause => .error (.placeholder cause)
  | .ok expanded =>
    match compileAnchored (String.ofList expanded) with
    | .error _ => .error (.badRegex (String.ofList expanded))
    | .ok regex => .ok regex

/-- The action of a rule; a rule without an arrow has the default one. -/
def readAction (rule : List Char) (split : Option (List Char × List Char)) :
    Except RuleFault Action :=
  match split with
  | none => .ok {}
  | some (_, text) =>
    match Action.parse? text with
    | none => .error (.badAction (String.ofList rule))
    | some action => action.check.map fun _ => action

def Rule.parse (templates : Templates) (line : String) (lineNumber : Nat) :
    Except RuleError Rule :=
  let rule := trim line.toList
  let parts : Except RuleFault Rule :=
    if rule.isEmpty then .error .empty
    else do
      let split := splitAction rule
      let pattern := (split.map (·.1)).getD rule
      let regex ← compilePattern templates pattern
      let action ← readAction rule split
      return ⟨String.ofList pattern, regex, action, lineNumber⟩
  parts.mapError fun fault => ⟨fault, lineNumber⟩

end TemplateBench.TextFsm
