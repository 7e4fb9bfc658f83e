import TemplateBench.Ttp.Placeholder
import TemplateBench.Json.Value

/-!
Pattern lines: literal text with placeholders, matched against whole input lines.

* `literal` is the expression of literal text, in which a run of blanks matches any such run.
* `Line.compile` puts the expression of a line together; placeholder `k` is its group `vk`.
* `Line.captures` matches an input line and gives each variable its value.
-/
namespace TemplateBench.Ttp
open Text

/-! ## Literal text -/

def isTabOrSpace (c : Char) : Bool := c == ' ' || c == '\t'

/-- The expression that matches one character only. -/
def escape (c : Char) : List Char := if Regex.isMeta c then ['\\', c] else [c]

def literalFrom (inBlanks : Bool) : List Char → List Char
  | [] => []
  | c :: rest =>
    if isTabOrSpace c then
      (if inBlanks then [] else "[\\t ]+".toList) ++ literalFrom true rest
    else escape c ++ literalFrom false rest

def literal (text : List Char) : List Char := literalFrom false text

/-! ## Segments -/

/-- A line cut at its placeholders. -/
inductive Segment
  | literal (text : List Char)
  | placeholder (body : List Char)
  deriving DecidableEq, Repr, Inhabited

/-- The text up to the first double brace that closes, and what follows it. -/
def untilClose : List Char → Option (List Char × List Char)
  | '\x7d' :: '\x7d' :: rest => some ([], rest)
  | [] => none
  | '\n' :: _ => none
  | c :: rest => (untilClose rest).map fun (body, after) => (c :: body, after)

/-- Cuts a line; `text` is the literal text read last, last character first. -/
def segments (text : List Char) : Nat → List Char → List Segment
  | 0, _ => [.literal text.reverse]
  | _, [] => [.literal text.reverse]
  | n + 1, '\x7b' :: '\x7b' :: rest =>
    match untilClose rest with
    | some (body, after) => .literal text.reverse :: .placeholder body :: segments [] n after
    | none => segments ('\x7b' :: text) n ('\x7b' :: rest)
  | n + 1, c :: rest => segments (c :: text) n rest

def segmentsOf (line : List Char) : List Segment := segments [] line.length line

/-! ## Lines -/

structure Line where
  regex : Regex
  /-- The variable of each placeholder, in order. -/
  targets : List Variable
  deriving DecidableEq, Repr, Inhabited

inductive LineFault
  | placeholder (cause : PlaceholderError)
  | badRegex (cause : Regex.Malformed)
  deriving DecidableEq, Repr, Inhabited

/-- The group of the placeholder numbered `k`. -/
def groupName (k : Nat) : String := "v" ++ toString k

/-- The expression of a line and its variables; `count` placeholders have been read. -/
def assemble (count : Nat) : List Segment → Except PlaceholderError (List Char × List Variable)
  | [] => .ok ([], [])
  | .literal text :: rest => do
    let (pattern, targets) ← assemble count rest
    return (literal text ++ pattern, targets)
  | .placeholder body :: rest => do
    let (v, regex) ← Variable.parse body
    let (pattern, targets) ← assemble (count + 1) rest
    let group := "(?P<" ++ groupName count ++ ">" ++ regex ++ ")"
    return (group.toList ++ pattern, v :: targets)

namespace Line

def compile (line : List Char) : Except LineFault Line :=
  match assemble 0 (segmentsOf line) with
  | .error cause => .error (.placeholder cause)
  | .ok (pattern, targets) =>
    match Regex.compile ("^[\\t ]*" ++ String.ofList pattern ++ "[\\t ]*$") with
    | .error cause => .error (.badRegex cause)
    | .ok regex => .ok ⟨regex, targets⟩

/-- Digits with an optional sign, within sixty-four bits. -/
def int64? (text : List Char) : Option Int :=
  let (negative, ds) := match text with
    | '-' :: rest => (true, rest)
    | '+' :: rest => (false, rest)
    | _ => (false, text)
  if ds.isEmpty || !ds.all isAsciiDigit then none
  else
    let n : Nat := ds.foldl (fun n d => 10 * n + (d.toNat - 48)) 0
    let value : Int := if negative then -n else n
    if -9223372036854775808 ≤ value && value ≤ 9223372036854775807 then some value else none

/-- The value of a captured text. -/
def valueOf (v : Variable) (text : String) : Json :=
  match v.toInt, int64? text.toList with
  | true, some n => .int n
  | _, _ => .string text

/-- The variables with their values when the line matches. -/
def captures (l : Line) (line : List Char) : Option (List (String × Json)) :=
  (l.regex.find? line).map fun m =>
    let groups := l.regex.namedGroups line m
    (l.targets.zipIdx).filterMap fun (v, k) =>
      ((groups.lookup (groupName k)).join).map fun text => (v.name, valueOf v text)

end Line

end TemplateBench.Ttp
