import TemplateBench.Text.Lines
import TemplateBench.Text.Letters

/-!
Actions of a rule: what follows the arrow in `^pattern -> LineOp.RecordOp Target`.

* `splitAction` cuts a rule at its last arrow.
* `Action.parse?` reads an action: a line operator with an optional record operator, a record
  operator alone, or neither, each with an optional target. An operator wins over a state of the
  same name.
-/
namespace TemplateBench.TextFsm
open Text

/-! ## Operators -/

inductive LineOp
  /-- Go on with the next line. -/
  | next
  /-- Go on with the next rule on the same line. -/
  | resume
  /-- Reject the input. -/
  | reject
  deriving DecidableEq, Repr, Inhabited

def LineOp.keyword : LineOp → String
  | .next => "Next"
  | .resume => "Continue"
  | .reject => "Error"

inductive RecordOp
  | noRecord
  | record
  | clear
  | clearAll
  deriving DecidableEq, Repr, Inhabited

def RecordOp.keyword : RecordOp → String
  | .noRecord => "NoRecord"
  | .record => "Record"
  | .clear => "Clear"
  | .clearAll => "Clearall"

def lineOps : List LineOp := [.resume, .next, .reject]

def recordOps : List RecordOp := [.clear, .clearAll, .record, .noRecord]

structure Action where
  lineOp : LineOp := .next
  recordOp : RecordOp := .noRecord
  /-- The state to go to, or the message of a rejection, with its quotes if it has any. -/
  target : Option String := none
  deriving DecidableEq, Repr, Inhabited

/-! ## Targets -/

/-- One or more word characters. -/
def isStateName (cs : List Char) : Bool := !cs.isEmpty && cs.all isWord

/-- A text between double quotes, on one line. -/
def isQuoted : List Char → Bool
  | '"' :: rest => rest.getLast? == some '"' && !rest.contains '\n'
  | _ => false

/-- The rest of an action after its operators: nothing, or white space and a target. -/
def readTarget (cs : List Char) : Option (Option String) :=
  match cs with
  | [] => some none
  | c :: rest =>
    if isBlank c then
      let target := trimStart rest
      if isStateName target || isQuoted target then some (some (String.ofList target)) else none
    else none

/-! ## Actions -/

/-- A record operator with the rest of the action. -/
def readRecordOp (cs : List Char) : Option (RecordOp × Option String) :=
  recordOps.findSome? fun op =>
    ((dropFront op.keyword.toList cs).bind readTarget).map fun target => (op, target)

/-- What may follow a line operator. -/
def readAfterLineOp (cs : List Char) : Option (RecordOp × Option String) :=
  match cs with
  | '.' :: rest => readRecordOp rest
  | _ => (readTarget cs).map fun target => (.noRecord, target)

def readLineOp (cs : List Char) : Option Action :=
  lineOps.findSome? fun op =>
    ((dropFront op.keyword.toList cs).bind readAfterLineOp).map fun (recordOp, target) =>
      ⟨op, recordOp, target⟩

/-- Reads the text after an arrow. -/
def Action.parse? (cs : List Char) : Option Action :=
  let operators : Option Action :=
    match cs with
    | c :: rest =>
      if isBlank c then
        let body := trimStart rest
        match readLineOp body with
        | some action => some action
        | none => (readRecordOp body).map fun (recordOp, target) => { recordOp, target }
      else none
    | [] => none
  match operators with
  | some action => some action
  | none => (readTarget cs).map fun target => { target }

/-- Cuts a rule before the white space of its last arrow: the pattern and the action text. -/
def splitAction : List Char → Option (List Char × List Char)
  | [] => none
  | c :: rest =>
    let here :=
      if isBlank c then
        match dropFront ['-', '>'] rest with
        | some action => if action.contains '\n' then none else some ([], action)
        | none => none
      else none
    if c = '\n' then here
    else match splitAction rest with
      | some (pattern, action) => some (c :: pattern, action)
      | none => here

end TemplateBench.TextFsm
