import TemplateBench.Jinja.Filter

/-!
The state of a rendering.

* Names are looked up in `Frame`s from the innermost outwards, then among the functions of the
  language. A loop, a `with`, a block and a macro each open a frame.
* What can be changed through several names — namespaces, loops, and the names that macros have
  taken with them — lives in tables, and values hold places in them.
* Frames are nested no deeper than `frameLimit`.
-/
namespace TemplateBench.Jinja

/-! ## Frames -/

/-- Where a frame finds names that it does not hold itself. -/
inductive Base
  | nothing
  | context (members : List (String × Value))
  | closure (place : Nat)

structure Frame where
  locals : List (String × Value) := []
  /-- The loop that the frame belongs to, and whether `loop` names it. -/
  loop : Option (Nat × Bool) := none
  /-- The names that macros declared in this frame have taken with them. -/
  closure : Option Nat := none
  base : Base := .nothing

instance : Inhabited Frame := ⟨{}⟩

/-- A loop under way. -/
structure Round where
  items : List Value
  index : Nat := 0
  depth : Nat := 0
  /-- The values that `changed` saw last. -/
  seen : Option (List Value) := none
  /-- The loop itself, when it may call itself. -/
  again : Option Loop := none

instance : Inhabited Round := ⟨⟨[], 0, 0, none, none⟩⟩

structure Scene where
  frames : List Frame
  /-- How deep the frames around a macro are nested. -/
  outer : Nat := 0
  output : String := ""
  mode : EscapeMode := .plain
  blocks : List (String × List Stmt) := []
  spaces : Array (List (String × Value)) := #[]
  rounds : Array Round := #[]
  closures : Array (List (String × Value)) := #[]

abbrev Rendering (α : Type) := StateT Scene (Except RenderError) α

def frameLimit : Nat := 500

namespace Rendering

def lift {α : Type} (o : Outcome α) : Rendering α := fun s => o.map (·, s)

def write (s : String) : Rendering Unit := modify fun scene => { scene with output := scene.output ++ s }

/-- Runs something in a frame of its own. -/
def within {α : Type} (f : Frame) (body : Rendering α) : Rendering α := do
  let s ← get
  if s.outer + s.frames.length + 1 > frameLimit then throw .invalidOperation
  set { s with frames := f :: s.frames }
  let a ← body
  modify fun s => { s with frames := s.frames.drop 1 }
  return a

/-- What something writes. -/
def captured (body : Rendering Unit) : Rendering Value := do
  let before := (← get).output
  modify fun s => { s with output := "" }
  body
  let s ← get
  set { s with output := before }
  return s.mode.captured s.output

/-! ## Names -/

private def assign (name : String) (v : Value) (members : List (String × Value)) : List (String × Value) :=
  (name, v) :: members.filter (·.1 != name)

/-- Gives a name a value in the innermost frame, for its macros too. -/
def store (name : String) (v : Value) : Rendering Unit :=
  modify fun s =>
    match s.frames with
    | [] => s
    | f :: rest =>
      let closures := match f.closure with
        | some place => s.closures.modify place (assign name v)
        | none => s.closures
      { s with frames := { f with locals := assign name v f.locals } :: rest, closures }

def globalFunctions : List String := ["range", "dict", "namespace", "debug"]

private def findIn (s : Scene) (name : String) (f : Frame) : Option Value :=
  match f.locals.lookup name with
  | some v => some v
  | none =>
    match f.loop with
    | some (place, true) => if name = "loop" then some (.loop place) else fromBase f
    | _ => fromBase f
where
  fromBase (f : Frame) : Option Value :=
    match f.base with
    | .nothing => none
    | .context members => members.lookup name
    | .closure place => (s.closures[place]?.getD []).lookup name

def lookup? (name : String) : Rendering (Option Value) := do
  let s ← get
  match s.frames.findSome? (findIn s name) with
  | some v => return some v
  | none => return if globalFunctions.contains name then some (.function name) else none

/-- Takes names along for the macros of the innermost frame; the result is their place. -/
def enclose (names : List String) : Rendering Nat := do
  let s ← get
  let place := (s.frames.head?.bind (·.closure)).getD s.closures.size
  if place = s.closures.size then
    let frames := match s.frames with
      | [] => []
      | f :: rest => { f with closure := some place } :: rest
    set { s with frames, closures := s.closures.push [] }
  names.forM fun name => do
    let members := (← get).closures[place]?.getD []
    if (members.lookup name).isNone then
      let v ← lookup? name
      modify fun s => { s with closures := s.closures.modify place (assign name (v.getD .undefined)) }
  return place

/-! ## Places -/

def newSpace (members : List (String × Value)) : Rendering Value := do
  let s ← get
  set { s with spaces := s.spaces.push members }
  return .space s.spaces.size

def setMember (object : Value) (name : String) (v : Value) : Rendering Unit :=
  match object with
  | .space place => modify fun s => { s with spaces := s.spaces.modify place (assign name v) }
  | _ => throw .invalidOperation

def newRound (r : Round) : Rendering Nat := do
  let s ← get
  set { s with rounds := s.rounds.push r }
  return s.rounds.size

def round (place : Nat) : Rendering Round := do return (← get).rounds[place]?.getD default

def setIndex (place index : Nat) : Rendering Unit :=
  modify fun s => { s with rounds := s.rounds.modify place fun r => { r with index } }

/-- The innermost loop. -/
def currentRound? : Rendering (Option Round) := do
  match (← get).frames.findSome? (·.loop) with
  | some (place, _) => return some (← round place)
  | none => return none

private def roundMember (r : Round) (name : String) : Option Value :=
  let length := r.items.length
  match name with
  | "index0" => some (.int r.index)
  | "index" => some (.int (r.index + 1))
  | "length" => some (.int length)
  | "revindex" => some (.int (length - r.index))
  | "revindex0" => some (.int (length - r.index - 1))
  | "first" => some (.bool (r.index == 0))
  | "last" => some (.bool (r.index + 1 == length))
  | "depth" => some (.int (r.depth + 1))
  | "depth0" => some (.int r.depth)
  | "previtem" => some ((if r.index = 0 then none else r.items[r.index - 1]?).getD .undefined)
  | "nextitem" => some ((r.items[r.index + 1]?).getD .undefined)
  | _ => none

private def macroMember (m : Macro) (name : String) : Option Value :=
  match name with
  | "name" => some (.ofString m.name)
  | "arguments" => some (.ofList (m.parameters.map Value.ofString))
  | "caller" => some (.bool (m.mentioned.contains "caller"))
  | _ => none

/-- A value as it can be printed and compared: without places. -/
def settle (v : Value) : Rendering Value := do
  match v with
  | .space place => return .ofNamed ((← get).spaces[place]?.getD [])
  | .loop place =>
    let r ← round place
    return .ofString ("<loop " ++ Decimal.natText r.index ++ "/" ++ Decimal.natText r.items.length ++ ">")
  | v => return v

/-- The attribute of a value, if it has one of that name. -/
def attribute? (v : Value) (name : String) : Rendering (Option Value) := do
  match v with
  | .space place => return ((← get).spaces[place]?.getD []).lookup name
  | .loop place => return roundMember (← round place) name
  | .closure m _ => return macroMember m name
  | .map _ => return v.member? (.ofString name)
  | .group _ _ => return v.member? (.ofString name)
  | _ => return none

/-- An attribute or item that is not there is undefined; an undefined value has none to look for. -/
def orUndefined (v : Value) (found : Option Value) : Rendering Value :=
  match found with
  | some w => return w
  | none => if v.isUndefined then throw .undefinedValue else return .undefined

end Rendering

/-! ## Functions -/

private def rangeLimit : Nat := 100000

private def rangeItems (start stop step : Int) : Outcome Value :=
  if step = 0 then invalid
  else
    let count := if step > 0 then (stop - start + step - 1) / step else (start - stop - step - 1) / (-step)
    if count > rangeLimit then invalid
    else .ok (.list ((List.range count.toNat).map fun (i : Nat) => Value.int (start + step * (i : Int))) true)

private def range (a : Arguments) : Outcome Value := do
  let args ← a.between 1 3
  let first ← (args[0]?.getD Value.undefined).asInt
  let step := (← Value.optional Value.asInt args[2]?).getD 1
  match ← Value.optional Value.asInt args[1]? with
  | some stop => rangeItems first stop step
  | none => rangeItems 0 first step

private def textKeys (members : List (Value × Value)) : Outcome (List (String × Value)) :=
  members.mapM fun (k, v) => do return (← k.asText, v)

/-- Calls a function of the language. -/
def callFunction (name : String) (a : Arguments) : Rendering Value := do
  match name with
  | "range" => Rendering.lift (range a)
  | "dict" =>
    let first : Option Value := (← Rendering.lift (a.atMost 1))[0]?.filter (!·.isAbsent)
    let named := a.named.map fun (n, v) => (Value.ofString n, v)
    match first with
    | none => return .ofMembers named
    | some (.map members) => return .ofMembers (members ++ named)
    | some _ => throw .invalidOperation
  | "namespace" =>
    let first : Option Value := (← Rendering.lift (a.atMost 1))[0]?.filter (!·.isAbsent)
    match first with
    | none => Rendering.newSpace a.named
    | some (.map members) =>
      if a.named.isEmpty then Rendering.newSpace (← Rendering.lift (textKeys members))
      else throw .tooManyArguments
    | some _ => throw .invalidOperation
  | "debug" => return .ofString ""
  | _ => throw .unknownFunction

end TemplateBench.Jinja
