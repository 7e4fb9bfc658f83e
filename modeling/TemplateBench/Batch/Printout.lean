import TemplateBench.Batch.Summary
import TemplateBench.Files.Tree

/-!
Reports, statistics and summaries as values of JSON, and the summary as a text to read.

Members stand in the order in which a summary file has them.
-/
namespace TemplateBench

/-! ## Values -/

def Outcome.toJson : Outcome → Json
  | .success recordCount elapsed => .object [
      ("status", .string "success"),
      ("record_count", Json.nat recordCount),
      ("elapsed_ms", .float elapsed)]
  | .failure message trace => .object [
      ("status", .string "failure"),
      ("error_message", .string message),
      ("trace", Json.ofOption .string trace)]
  | .skipped reason => .object [("status", .string "skipped"), ("reason", .string reason)]

def Timing.toJson (t : Timing) : Json := .object [
  ("template", .string t.template),
  ("command", .string t.command),
  ("elapsed_ms", .float t.elapsed),
  ("record_count", Json.nat t.recordCount)]

def ErrorEntry.toJson (e : ErrorEntry) : Json := .object [
  ("template", .string e.template),
  ("command", .string e.command),
  ("error_message", .string e.message),
  ("trace", Json.ofOption .string e.trace)]

def MismatchEntry.toJson (m : MismatchEntry) : Json := .object [
  ("template", .string m.template),
  ("command", .string m.command),
  ("expected", Json.nat m.expected),
  ("actual", Json.nat m.actual)]

def Statistics.toJson (s : Statistics) : Json := .object [
  ("total", Json.nat s.total),
  ("success", Json.nat s.success),
  ("failed", Json.nat s.failed),
  ("skipped", Json.nat s.skipped),
  ("timings", .array (s.timings.map Timing.toJson)),
  ("errors", .array (s.errors.map ErrorEntry.toJson)),
  ("mismatches", .array (s.mismatches.map MismatchEntry.toJson))]

def Summary.members (s : Summary) : List (String × Json) := [
  ("mode", Json.ofOption .string s.mode),
  ("total", Json.nat s.statistics.total),
  ("success", Json.nat s.statistics.success),
  ("failed", Json.nat s.statistics.failed),
  ("skipped", Json.nat s.statistics.skipped),
  ("success_rate", .float s.rates.success),
  ("failure_rate", .float s.rates.failed),
  ("skip_rate", .float s.rates.skipped),
  ("total_parse_ms", .float s.total),
  ("average_parse_ms", .float s.mean),
  ("median_parse_ms", .float s.median),
  ("p95_parse_ms", .float s.p95),
  ("fastest", .array (s.statistics.fastest.map Timing.toJson)),
  ("slowest", .array (s.statistics.slowest.map Timing.toJson)),
  ("failures", .array (s.statistics.errors.map ErrorEntry.toJson)),
  ("mismatches", .array (s.statistics.mismatches.map MismatchEntry.toJson)),
  ("banner", .string s.verdict.name)]

/-- What a summary file holds; it begins with the time at which it was made. -/
def Summary.file (s : Summary) (generatedAt : String) : String :=
  (Json.object (("generated_at", .string generatedAt) :: s.members)).pretty

/-- Writes the summary file; folders that are not there are made. -/
def Summary.save (s : Summary) (t : FileTree) (path : Path) (generatedAt : String) :
    Except FileError FileTree := do
  let t ← match path.parent? with
    | some folder => t.createFolders folder
    | none => .ok t
  t.write path (s.file generatedAt)

/-! ## Text -/

private def countLine (title : String) (count : Nat) (rate : Float) : String :=
  title ++ ": " ++ Decimal.natText count ++ " (" ++ Decimal.fixed 1 rate ++ "%)"

private def rankedLines (title : String) (timings : List Timing) : List String :=
  "" :: title :: timings.map fun t =>
    "  " ++ t.command ++ ": " ++ milliseconds t.elapsed ++
      " (" ++ Decimal.natText t.recordCount ++ " records)"

/-- A section appears only if it has entries. -/
private def sectionLines {α : Type} (title : String) (entries : List α) (line : α → String) :
    List String :=
  if entries.isEmpty then [] else "" :: title :: entries.map line

private def timeLines (s : Summary) : List String :=
  if s.statistics.fastest.isEmpty then []
  else
    ["", "Average parse time: " ++ milliseconds s.mean,
      "Median: " ++ milliseconds s.median ++ ", p95: " ++ milliseconds s.p95 ++
        ", total: " ++ milliseconds s.total] ++
    rankedLines "Fastest templates:" s.statistics.fastest ++
    rankedLines "Slowest templates:" s.statistics.slowest

def ruler : String := String.ofList (List.replicate 50 '=')

def Summary.lines (s : Summary) : List String :=
  let n := s.statistics
  let title := match s.mode with
    | some mode => "Template Testing Summary (" ++ mode ++ ")"
    | none => "Template Testing Summary"
  [ruler, title, ruler, "",
    "Total templates tested: " ++ Decimal.natText n.total,
    countLine "Successful" n.success s.rates.success,
    countLine "Failed" n.failed s.rates.failed,
    countLine "Skipped" n.skipped s.rates.skipped] ++
  timeLines s ++
  sectionLines "Failed templates:" n.errors (fun e => "  " ++ e.command ++ ": " ++ e.message) ++
  sectionLines "Record count mismatches:" n.mismatches (fun m =>
    "  " ++ m.command ++ ": expected " ++ Decimal.natText m.expected ++
      ", got " ++ Decimal.natText m.actual) ++
  ["", ruler, s.verdict.message, ruler]

def Summary.render (s : Summary) : String := String.join (s.lines.map (· ++ "\n"))

end TemplateBench
