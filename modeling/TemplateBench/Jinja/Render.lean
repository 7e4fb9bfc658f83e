import TemplateBench.Jinja.Context
import TemplateBench.Jinja.Scene
import TemplateBench.Jinja.Statement

/-!
Rendering templates: the values of expressions, the effects of statements, and the text that a
template gives in a context.
-/
namespace TemplateBench.Jinja
open Rendering

/-! ## Expressions -/

private def notCallable {α : Type} : Rendering α := throw .invalidOperation

/-- Values of a spread argument, which must be a map. -/
private def spreadNamed (v : Value) : Rendering (List (String × Value)) := do
  match v with
  | .map members => members.mapM fun (k, v) => do return (← lift k.asText, v)
  | _ => throw .invalidOperation

/-- Puts arguments in the places of parameters; `default` marks one that was not given. -/
private def bindParameters (m : Macro) (a : Arguments) : Outcome (List (String × Value)) := do
  if a.positional.length > m.parameters.length then throw .tooManyArguments
  let known := a.named.all fun (n, _) =>
    m.parameters.contains n || (n = "caller" && m.mentioned.contains "caller")
  let bound ← (m.parameters.zipIdx).mapM fun (name, i) =>
    match a.positional[i]?, a.named.lookup name with
    | some _, some _ => (throw .tooManyArguments : Outcome (String × Value))
    | some v, none => .ok (name, v)
    | none, some v => .ok (name, v)
    | none, none => .ok (name, .undefined)
  if known then return bound else throw .tooManyArguments

/-- How much deeper than its call a macro counts. -/
private def macroDepth : Nat := 4

/-- Items that are taken apart into a number of targets. -/
private def unpack (count : Nat) (v : Value) : Outcome (List Value) :=
  match v.sequence? with
  | some items => if items.length = count then .ok items else .error .cannotUnpack
  | none => .error .cannotUnpack

private def cycle (r : Round) (values : List Value) : Value :=
  (values[r.index % values.length]?).getD .undefined

private def changed (place : Nat) (values : List Value) : Rendering Value := do
  let r ← round place
  let same := r.seen.any fun seen => (Value.ofList seen).same (.ofList values)
  modify fun s => { s with rounds := s.rounds.modify place fun r => { r with seen := some values } }
  return .bool (!same)

/-! ## Effects -/

private def filterWith (name : String) (v : Value) (a : Arguments) : Rendering Value := do
  lift (applyFilter (← get).mode 16 name v a)

private def emit (v : Value) : Rendering Unit := do
  write ((← get).mode.print (← settle v))

/-- No template is known by name, so that every name is one that is not found. -/
private def findTemplate (v : Value) (ignoreMissing : Bool) : Rendering Unit := do
  let names := match v with
    | .list items _ => items
    | v => [v]
  names.forM fun v => do
    let _ ← lift v.asText
  if ignoreMissing || names.isEmpty then return () else throw .templateNotFound

private def escapeMode (v : Value) : Rendering EscapeMode :=
  match v with
  | .string "html" _ => return .html
  | .string "json" _ => return .json
  | .string "none" _ => return .plain
  | .string _ _ => throw .invalidOperation
  | v => return if v.same (.bool true) then .html else .plain

/-! ## Evaluation -/

mutual

def evaluate : Nat → Expr → Rendering Value
  | 0, _ => throw .invalidOperation
  | n + 1, e => do
    match e with
    | .literal l => return .ofLiteral l
    | .variable name => return (← lookup? name).getD .undefined
    | .list items => return .ofList (← items.mapM fun e => evaluate n e)
    | .map entries =>
      return .ofMembers (← entries.mapM fun (k, v) => do return (← evaluate n k, ← evaluate n v))
    | .unary .negate e => return .bool !(← holds n e)
    | .unary .minus e => lift (← evaluate n e).minus
    | .binary op left right =>
      let a ← evaluate n left
      if op = .either then (if (← settle a).isTrue then return a else evaluate n right)
      else if op = .both then (if (← settle a).isTrue then evaluate n right else return a)
      else
        let b ← evaluate n right
        lift (Value.operate op (← settle a) (← settle b))
    | .choice condition yes no =>
      if ← holds n condition then evaluate n yes
      else match no with
        | some no => evaluate n no
        | none => return .undefined
    | .filter name target arguments =>
      let v ← settle (← evaluate n target)
      let a ← evaluateArguments n arguments
      filterWith name v a
    | .test name target arguments =>
      let v ← settle (← evaluate n target)
      let a ← evaluateArguments n arguments
      return .bool (← lift (runTest isFilterName name v a))
    | .attribute target name =>
      let v ← evaluate n target
      orUndefined v (← attribute? v name)
    | .item target key =>
      let v ← evaluate n target
      let key ← evaluate n key
      let found ← match key with
        | .string name _ => (do
          match ← attribute? v name with
          | some w => pure (some w)
          | none => pure (v.member? key))
        | key => pure (v.member? key)
      orUndefined v found
    | .slice target start stop step =>
      let v ← settle (← evaluate n target)
      let bound (e : Option Expr) : Rendering Value :=
        match e with
        | some e => evaluate n e
        | none => return .null
      let start ← bound start
      let stop ← bound stop
      let step ← bound step
      lift (v.slice start stop step)
    | .call callee arguments => call n callee arguments []

/-- Whether a condition holds. -/
private def holds : Nat → Expr → Rendering Bool
  | 0, _ => throw .invalidOperation
  | n + 1, e => do return (← settle (← evaluate n e)).isTrue

private def evaluateArguments : Nat → List Argument → Rendering Arguments
  | 0, _ => throw .invalidOperation
  | n + 1, arguments =>
    arguments.foldlM (fun (a : Arguments) argument => do
      match argument with
      | .positional e => return { a with positional := a.positional ++ [← evaluate n e] }
      | .named name e => return { a with named := a.named ++ [(name, ← evaluate n e)] }
      | .spread e =>
        let items ← lift (← evaluate n e).asItems
        return { a with positional := a.positional ++ items }
      | .spreadNamed e =>
        let members ← spreadNamed (← settle (← evaluate n e))
        return { a with named := a.named ++ members }) {}

/-- Calls what an expression names; `extra` are named arguments beside the written ones. -/
private def call : Nat → Expr → List Argument → List (String × Value) → Rendering Value
  | 0, _, _, _ => throw .invalidOperation
  | n + 1, callee, arguments, extra => do
    let written : Rendering Arguments := do
      let a ← evaluateArguments n arguments
      return { a with named := a.named ++ extra }
    match callee with
    | .variable name =>
      let a ← written
      if name = "super" then throw .invalidOperation
      else if name = "loop" then recur n a
      else match ← lookup? name with
        | some v => callValue n v a
        | none => throw .unknownFunction
    | .attribute (.variable "self") name => captured (runBlock n name)
    | .attribute target name =>
      let v ← evaluate n target
      callMethod n v name (← written)
    | e =>
      let v ← evaluate n e
      callValue n v (← written)

private def callValue : Nat → Value → Arguments → Rendering Value
  | 0, _, _ => throw .invalidOperation
  | n + 1, v, a =>
    match v with
    | .closure m closure => callMacro n m closure a
    | .function name => callFunction name a
    | _ => notCallable

private def callMethod : Nat → Value → String → Arguments → Rendering Value
  | 0, _, _, _ => throw .invalidOperation
  | n + 1, v, name, a => do
    match v, name with
    | .loop place, "cycle" => return cycle (← round place) a.positional
    | .loop place, "changed" => changed place a.positional
    | v, name =>
      match ← attribute? v name with
      | some w => callValue n w a
      | none => throw .unknownMethod

/-- Runs a macro in frames of its own, with the names that it took along. -/
private def callMacro : Nat → Macro → Nat → Arguments → Rendering Value
  | 0, _, _, _ => throw .invalidOperation
  | n + 1, m, closure, a => do
    let bound ← lift (bindParameters m a)
    let s ← get
    let outer := s.outer + s.frames.length + macroDepth
    if outer + 1 > frameLimit then throw .invalidOperation
    set { s with frames := [{ base := .closure closure }], outer }
    if m.mentioned.contains "caller" then store "caller" ((a.named.lookup "caller").getD .undefined)
    let given (v : Value) (fallback : Option Expr) : Rendering Value :=
      match v, fallback with
      | .undefined, some e => evaluate n e
      | v, _ => return v
    (bound.zip m.signature).forM fun ((name, v), (_, fallback)) => do store name (← given v fallback)
    let v ← captured (runBody n m.body)
    modify fun after => { after with frames := s.frames, outer := s.outer }
    return v

/-- Runs the innermost loop again over other items. -/
private def recur : Nat → Arguments → Rendering Value
  | 0, _ => throw .invalidOperation
  | n + 1, a => do
    match a.positional, ← currentRound? with
    | [v], some r =>
      match r.again with
      | some l => do
        let items ← lift (← settle v).asItems
        captured (runRound n l items)
      | none => throw .invalidOperation
    | _, _ => throw .invalidOperation

private def runBlock : Nat → String → Rendering Unit
  | 0, _ => throw .invalidOperation
  | n + 1, name => do
    match (← get).blocks.lookup name with
    | some body => within {} (runBody n body)
    | none => throw .unknownBlock

private def assignTo : Nat → Target → Value → Rendering Unit
  | 0, _, _ => throw .invalidOperation
  | n + 1, target, v => do
    match target with
    | .name name => store name v
    | .attribute object name => setMember (← evaluate n object) name v
    | .list targets =>
      let items ← lift (unpack targets.length (← settle v))
      (targets.zip items).forM fun (t, v) => assignTo n t v

private def runBody : Nat → List Stmt → Rendering Unit
  | 0, _ => throw .invalidOperation
  | n + 1, body => body.forM fun s => run n s

private def filtered : Nat → FilterChain → Value → Rendering Value
  | 0, _, _ => throw .invalidOperation
  | n + 1, filters, v =>
    filters.foldlM (fun v (name, arguments) => do
      let a ← evaluateArguments n arguments
      filterWith name v a) v

private def run : Nat → Stmt → Rendering Unit
  | 0, _ => throw .invalidOperation
  | n + 1, s => do
    match s with
    | .data text => write text
    | .emit e => emit (← evaluate n e)
    | .loop l => runLoop n l
    | .cond condition yes no => if ← holds n condition then runBody n yes else runBody n no
    | .within bindings body =>
      within {} do
        bindings.forM fun (target, e) => do assignTo n target (← evaluate n e)
        runBody n body
    | .assign target e => assignTo n target (← evaluate n e)
    | .capture target filters body =>
      let v ← captured (runBody n body)
      assignTo n target (← filtered n filters v)
    | .autoescape e body =>
      let before := (← get).mode
      let mode ← escapeMode (← evaluate n e)
      modify fun s => { s with mode }
      runBody n body
      modify fun s => { s with mode := before }
    | .filtered filters body =>
      let v ← captured (runBody n body)
      emit (← filtered n filters v)
    | .block name body =>
      let body := ((← get).blocks.lookup name).getD body
      within {} (runBody n body)
    | .parent e =>
      let _ ← lift (← evaluate n e).asText
      throw .templateNotFound
    | .include e ignoreMissing => findTemplate (← evaluate n e) ignoreMissing
    | .modules e => findTemplate (← evaluate n e) false
    | .declare m =>
      let place ← enclose (m.mentioned.filter (· != "caller"))
      store m.name (.closure m place)
    | .callWith callee arguments caller =>
      let place ← enclose (caller.mentioned.filter (· != "caller"))
      emit (← call n callee arguments [("caller", .closure caller place)])
    | .perform callee arguments =>
      let _ ← call n callee arguments []

private def runLoop : Nat → Loop → Rendering Unit
  | 0, _ => throw .invalidOperation
  | n + 1, l => do
    match l with
    | .mk target items condition _ _ otherwise =>
      let items ← lift (← settle (← evaluate n items)).asItems
      let items ← match condition with
        | none => pure items
        | some condition => do
          let place ← newRound { items }
          within { loop := some (place, false) } do
            items.filterM fun v => do
              assignTo n target v
              holds n condition
      runRound n l items
      if items.isEmpty then runBody n otherwise

/-- Goes through items; the frame is one for all of them. -/
private def runRound : Nat → Loop → List Value → Rendering Unit
  | 0, _, _ => throw .invalidOperation
  | n + 1, l, items => do
    match l with
    | .mk target _ _ recursive body _ =>
      let depth := match ← currentRound? with
        | some r => if r.again.isSome then r.depth + 1 else 0
        | none => 0
      let place ← newRound { items, depth, again := if recursive then some l else none }
      within { loop := some (place, true) } do
        (items.zipIdx).forM fun (v, i) => do
          setIndex place i
          assignTo n target v
          runBody n body

end

/-! ## Templates -/

/-- The text of a template in a context. The template is `size` characters long, which bounds how
deep it nests within each frame. -/
def Template.render (t : Template) (size : Nat) (context : List (String × Value)) :
    Except RenderError String := do
  let scene : Scene := { frames := [{ base := .context context }], blocks := t.blocks }
  let (_, s) ← (runBody ((frameLimit + 1) * (8 * size + 16)) t.body).run scene
  return s.output

/-- Renders a template in the context that a text describes. -/
def process (source template : String) : Except EngineError Output := do
  let members ← (readContext source).mapError ContextError.report
  let t ← (Template.read template).mapError fun e => ⟨.template, e.message⟩
  let context := members.map fun (n, v) => (n, Value.ofJson v)
  match t.render template.length context with
  | .ok text => return .text text
  | .error e => throw ⟨.render, e.message⟩

end TemplateBench.Jinja
