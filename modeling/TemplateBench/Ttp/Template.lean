import TemplateBench.Ttp.Line
import TemplateBench.Table

/-!
Token pattern templates: pattern lines, some of them in `<group name="...">` blocks.

* `Template.compile` reads a template: blocks do not nest, lines outside any block form the first
  group, and the header lists each variable once.
* `Group.rows` collects a group's rows: its first line starts a row, the others add to it.
* `Template.parse` joins the rows of all groups.
-/
namespace TemplateBench.Ttp
open Text

/-! ## Types -/

structure Group where
  name : String
  lines : List Line
  deriving DecidableEq, Repr, Inhabited

structure Template where
  groups : List Group
  header : List String
  deriving DecidableEq, Repr, Inhabited

inductive TemplateError
  | line (fault : LineFault) (number : Nat)
  | nestedGroup (number : Nat)
  | unopenedGroup (number : Nat)
  | unclosedGroup (name : String)
  | noLines
  deriving DecidableEq, Repr, Inhabited

def TemplateError.message : TemplateError → String
  | .line (.placeholder (.badName name)) n =>
    "Invalid variable name '" ++ name ++ "' on template line " ++ toString n
  | .line (.placeholder (.unsupported item name)) n =>
    "Unsupported function '" ++ item ++ "' for variable '" ++ name ++ "' on template line " ++
      toString n
  | .line (.badRegex cause) n =>
    "Invalid pattern on template line " ++ toString n ++ ": " ++ cause.message
  | .nestedGroup n => "Nested groups are not supported. Line: " ++ toString n
  | .unopenedGroup n => "Closing </group> without opening tag. Line: " ++ toString n
  | .unclosedGroup name => "Unclosed <group name=\"" ++ name ++ "\">"
  | .noLines => "Template has no pattern lines."

def TemplateError.report (e : TemplateError) : EngineError := ⟨.template, e.message⟩

/-! ## Tags -/

/-- The name of a group that is not given one. -/
def anonymousName : String := "_anonymous_"

def isTagEnd (cs : List Char) : Bool := trimStart cs == ['>']

/-- The rest after `name = "` inside a tag: the name and what follows its closing quote. -/
def nameAttribute? (cs : List Char) : Option (List Char × List Char) := do
  let rest ← dropFront "name".toList (trimStart cs)
  let rest ← dropFront ['='] (trimStart rest)
  let rest ← dropFront ['"'] (trimStart rest)
  match rest.span (· ≠ '"') with
  | (name, _ :: rest) => some (name, rest)
  | _ => none

/-- The name of a group that a line opens. -/
def openTag? (line : List Char) : Option String := do
  let rest ← dropFront "<group".toList line
  let named : Option String :=
    if rest.head?.any isBlank then
      match nameAttribute? rest with
      | some (name, rest) => if isTagEnd rest then some (String.ofList name) else none
      | none => none
    else none
  match named with
  | some name => some name
  | none => if isTagEnd rest then some anonymousName else none

def closeTag : List Char := "</group>".toList

/-! ## Reading -/

/-- What has been read: closed groups, the open one and the lines outside any. -/
structure Draft where
  closed : List Group := []
  current : Option Group := none
  loose : List Line := []
  deriving Repr, Inhabited

def Draft.addLine (d : Draft) (line : Line) : Draft :=
  match d.current with
  | some g => { d with current := some { g with lines := g.lines ++ [line] } }
  | none => { d with loose := d.loose ++ [line] }

/-- Reads one line, which is trimmed and not blank. -/
def Draft.readLine (d : Draft) (number : Nat) (line : List Char) : Except TemplateError Draft :=
  match openTag? line with
  | some name =>
    if d.current.isSome then .error (.nestedGroup number)
    else .ok { d with current := some ⟨name, []⟩ }
  | none =>
    if line = closeTag then
      match d.current with
      | some g => .ok { d with closed := d.closed ++ [g], current := none }
      | none => .error (.unopenedGroup number)
    else
      match Line.compile line with
      | .ok l => .ok (d.addLine l)
      | .error fault => .error (.line fault number)

def Draft.readLines (d : Draft) : List (Nat × List Char) → Except TemplateError Draft
  | [] => .ok d
  | (number, raw) :: rest =>
    let line := trim raw
    if line.isEmpty then d.readLines rest
    else do (← d.readLine number line).readLines rest

/-- Each name once, in order of first appearance. -/
def distinct : List String → List String
  | [] => []
  | n :: rest => n :: (distinct rest).filter (· != n)

namespace Template

def headerOf (groups : List Group) : List String :=
  distinct (groups.flatMap fun g => g.lines.flatMap fun l => l.targets.map (·.name))

def ofDraft (d : Draft) : Except TemplateError Template :=
  match d.current with
  | some g => .error (.unclosedGroup g.name)
  | none =>
    let groups := if d.loose.isEmpty then d.closed else ⟨anonymousName, d.loose⟩ :: d.closed
    if groups.all (·.lines.isEmpty) then .error .noLines else .ok ⟨groups, headerOf groups⟩

def compile (text : String) : Except TemplateError Template := do
  let numbered := ((Text.lines text.toList).zipIdx 1).map fun (line, n) => (n, line)
  ofDraft (← Draft.readLines {} numbered)

def groupNames (t : Template) : List String := t.groups.map (·.name)

end Template

/-! ## Rows -/

/-- Writes captures into a row; a later one of the same variable counts. -/
def fill (header : List String) (row : List Json) (captured : List (String × Json)) : List Json :=
  captured.foldl (fun row (name, value) =>
    match header.findIdx? (· == name) with
    | some column => row.set column value
    | none => row) row

def emptyRow (header : List String) : List Json := header.map fun _ => .string ""

/-- Rows of the remaining lines; `pending` is the row under construction. -/
def collect (header : List String) (first : Line) (others : List Line) (pending : Option (List Json)) :
    List (List Char) → List (List Json)
  | [] => pending.toList
  | line :: rest =>
    match first.captures line with
    | some captured =>
      pending.toList ++ collect header first others (some (fill header (emptyRow header) captured)) rest
    | none =>
      let pending := pending.map fun row =>
        match others.findSome? (·.captures line) with
        | some captured => fill header row captured
        | none => row
      collect header first others pending rest

def Group.rows (g : Group) (header : List String) (text : List (List Char)) : List (List Json) :=
  match g.lines with
  | [] => []
  | first :: others => collect header first others none text

def Template.parse (t : Template) (text : String) : Table :=
  let lines := Text.lines text.toList
  ⟨t.header, t.groups.flatMap fun g => g.rows t.header lines⟩

/-- Compiles a template and parses a text with it. -/
def process (source template : String) : Except EngineError Output := do
  let t ← (Template.compile template).mapError TemplateError.report
  return .table (t.parse source)

end TemplateBench.Ttp
