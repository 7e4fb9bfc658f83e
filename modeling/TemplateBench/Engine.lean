import TemplateBench.Example
import TemplateBench.Jinja.Render
import TemplateBench.TextFsm.Run
import TemplateBench.Ttp.Template

/-!
Engines: what applies a template to a source text.

An engine may give an output, report a failure, or break down. The three built-in engines never
break down.
-/
namespace TemplateBench

/-! ## Engines -/

inductive EngineKind
  | textFsm
  | ttp
  | jinja2
  deriving DecidableEq, Repr, Inhabited

def EngineKind.name : EngineKind → String
  | .textFsm => "textfsm"
  | .ttp => "ttp"
  | .jinja2 => "jinja2"

def EngineKind.all : List EngineKind := [.textFsm, .ttp, .jinja2]

def EngineKind.ofName? (name : String) : Option EngineKind := EngineKind.all.find? (·.name == name)

/-- What an engine leaves behind when it breaks down. -/
inductive Crash
  | message (s : String)
  | silent
  deriving DecidableEq, Repr, Inhabited

def Crash.text : Crash → String
  | .message s => s
  | .silent => "unknown panic payload"

inductive Reply
  | done (o : Output)
  | failed (e : EngineError)
  | crashed (c : Crash)
  deriving Repr, Inhabited

def Reply.ofExcept : Except EngineError Output → Reply
  | .ok o => .done o
  | .error e => .failed e

structure Engine where
  name : String
  kind : EngineKind
  /-- Applies a template, the second argument, to a source text. -/
  apply : String → String → Reply
  /-- A source text with a template that fits it. -/
  sample : String × String

/-! ## Built-in engines -/

def process : EngineKind → String → String → Except EngineError Output
  | .textFsm => TextFsm.process
  | .ttp => Ttp.process
  | .jinja2 => Jinja.process

def sampleOf : EngineKind → String × String
  | .textFsm => (Example.interfaceListing, Example.interfaceMachine)
  | .ttp => (Example.interfaceListing, Example.interfacePattern)
  | .jinja2 => (Example.interfaceContext, Example.interfaceText)

def EngineKind.engine (k : EngineKind) : Engine :=
  ⟨k.name, k, fun source template => .ofExcept (process k source template), sampleOf k⟩

end TemplateBench
