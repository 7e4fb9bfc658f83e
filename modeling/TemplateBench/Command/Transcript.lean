import TemplateBench.Command.Arguments
import TemplateBench.Suite.Problem

/-!
What a command leaves behind: the lines that it prints, a complaint if it fails, and the files.
-/
namespace TemplateBench.Command

/-! ## Complaints -/

/-- Why a command fails. -/
inductive Complaint
  | usage (e : UsageError)
  | unknownMode (e : RegistryError)
  | unreadable (what : String) (path : Path) (e : FileError)
  | engine (context : String) (kind : EngineKind) (e : EngineError)
  | crashed (c : Crash)
  | problem (context : Option String) (p : Problem)
  deriving Repr, Inhabited

/-- A complaint with its cause below it, each line of it indented. -/
private def above (text cause : String) : String :=
  "Error: " ++ text ++ "\n\nCaused by:" ++
    String.join ((Text.splitOn '\n' cause.toList).map fun l => "\n    " ++ String.ofList l)

/-- A problem behind what led to it, and its cause behind the problem. -/
private def inLine (context : Option String) (p : Problem) : String :=
  ": ".intercalate (context.toList ++ p.message :: p.cause?.toList)

namespace Complaint

def text : Complaint → String
  | .usage e => "error: " ++ e.message
  | .unknownMode e => "Error: " ++ e.message
  | .unreadable what path e =>
    above ("Failed to read " ++ what ++ " file '" ++ path.text ++ "'") e.message
  | .engine context _ e => above context e.message
  | .crashed c => c.text
  | .problem none (.noTemplates folder front) =>
    (Problem.noTemplates folder front).message ++ ". Exiting."
  | .problem context p => "Error: " ++ inLine context p

/-- The exit code: two for arguments that cannot be read, else one. -/
def code : Complaint → Nat
  | .usage _ => 2
  | .crashed _ => 101
  | _ => 1

end Complaint

/-! ## Transcripts -/

structure Transcript where
  /-- Printed texts, each with a line end behind it. -/
  lines : List String := []
  complaint : Option Complaint := none
  /-- A file that the command writes. -/
  saved : Option (Path × String) := none
  deriving Repr, Inhabited

namespace Transcript

def failed (c : Complaint) : Transcript := { complaint := some c }

def print (lines : List String) (t : Transcript) : Transcript := { t with lines := lines ++ t.lines }

def output (t : Transcript) : String := String.join (t.lines.map (· ++ "\n"))

def errors (t : Transcript) : String :=
  match t.complaint with
  | some c => c.text ++ "\n"
  | none => ""

def code (t : Transcript) : Nat :=
  match t.complaint with
  | some c => c.code
  | none => 0

end Transcript

end TemplateBench.Command
