import TemplateBench.Command.Transcript

/-!
The commands that apply a single template: `modes` lists the modes, `example` prints the sample of
a mode, and `render` applies the template in a file to the text in another.
-/
namespace TemplateBench.Apply
open Command

/-! ## Commands -/

inductive Form
  | text
  | json
  deriving DecidableEq, Repr, Inhabited

def Form.ofName? : String → Option Form
  | "text" => some .text
  | "json" => some .json
  | _ => none

inductive Request
  | modes
  | sample (mode : String) (run : Bool)
  | render (mode : String) (source template : Path) (form : Form)
  deriving DecidableEq, Repr, Inhabited

def defaultMode : String := "TextFSM_Table"

private def modeOption : Opt := ⟨"mode", some 'm', true⟩

/-- Each command with its options. -/
def options : List (String × List Opt) := [
  ("modes", []),
  ("example", [modeOption, ⟨"run", none, false⟩]),
  ("render", [modeOption, ⟨"source", some 's', true⟩, ⟨"template", some 't', true⟩,
    ⟨"format", some 'f', true⟩])]

def Request.read (args : List String) : Usage Request := do
  let line ← Line.read [] options args
  let a := line.behind
  a.noWords
  let mode := (a.value? "mode").getD defaultMode
  match line.command with
  | "modes" => return .modes
  | "example" => return .sample mode (a.has "run")
  | _ => do
    let source ← Arguments.required "source" (← a.path? "source")
    let template ← Arguments.required "template" (← a.path? "template")
    let form ← a.parsed? "format" Form.ofName?
    return .render mode source template (form.getD .text)

/-! ## Answers -/

private def pad (width : Nat) (s : String) : String :=
  s ++ String.ofList (List.replicate (width - s.length) ' ')

private def modeLine (label : String) (m : Mode) : String :=
  pad 16 label ++ " " ++ pad 8 m.engine.name ++ " " ++ (m.variant.map Variant.name).getD "-"

private def trimmedEnd (s : String) : String := String.ofList (Text.trimEnd s.toList)

private def resolve (mode : String) (answer : Mode → Transcript) : Transcript :=
  match Registry.builtIn.resolve mode with
  | .ok m => answer m
  | .error e => .failed (.unknownMode e)

private def readText (t : FileTree) (what : String) (path : Path) (answer : String → Transcript) :
    Transcript :=
  match t.read path with
  | .ok text => answer text
  | .error e => .failed (.unreadable what path e)

private def apply (m : Mode) (context source template : String) (answer : Output → Transcript) :
    Transcript :=
  match m.engine.apply source template with
  | .done output => answer output
  | .failed e => .failed (.engine context m.kind e)
  | .crashed c => .failed (.crashed c)

def Request.answer (t : FileTree) : Request → Transcript
  | .modes => { lines := Registry.builtIn.modes.map fun (label, m) => modeLine label m }
  | .sample mode run => resolve mode fun m =>
    let (source, template) := m.sample
    let result : Transcript :=
      if run then
        apply m (mode ++ " example failed") source template fun output =>
          { lines := ["", "# Result", trimmedEnd (output.render m.variant)] }
      else {}
    result.print ["# Source", trimmedEnd source, "", "# Template", trimmedEnd template]
  | .render mode source template form => resolve mode fun m =>
    readText t "source" source fun sourceText =>
      readText t "template" template fun templateText =>
        apply m (m.kind.name ++ " error") sourceText templateText fun output =>
          match form with
          | .text => { lines := [trimmedEnd (output.render m.variant)] }
          | .json => { lines := [output.toJson.pretty] }

def perform (t : FileTree) (args : List String) : Transcript :=
  match Request.read args with
  | .ok r => r.answer t
  | .error e => .failed (.usage e)

end TemplateBench.Apply
