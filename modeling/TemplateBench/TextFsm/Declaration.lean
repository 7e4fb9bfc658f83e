import TemplateBench.Regex.Matcher

/-!
Value declarations: `Value [Option,...] Name (regex)`.

* `Declaration.parse` reads a line, cut at single spaces.
* `Declaration.print` writes one; it puts one space between options, name and regex.
-/
namespace TemplateBench.TextFsm
open Text

/-! ## Options -/

inductive ValueOption
  /-- A record is only saved if the value is not empty. -/
  | required
  /-- The value outlives a saved record and goes only when all is cleared. -/
  | filldown
  /-- A new value is copied into the earlier rows that lack one. -/
  | fillup
  /-- The value identifies its row; nothing follows from it. -/
  | key
  /-- Every match is added to a list. -/
  | list
  deriving DecidableEq, Repr, Inhabited

namespace ValueOption

def keyword : ValueOption → String
  | .required => "Required"
  | .filldown => "Filldown"
  | .fillup => "Fillup"
  | .key => "Key"
  | .list => "List"

def all : List ValueOption := [.required, .filldown, .fillup, .key, .list]

def ofKeyword? (s : String) : Option ValueOption := all.find? (·.keyword == s)

end ValueOption

/-! ## Declarations -/

/-- The longest name of a value or state, in bytes. -/
def maxNameLength : Nat := 48

structure Declaration where
  name : String
  options : List ValueOption
  /-- The regex as written, with its outer parentheses. -/
  regex : String
  /-- The regex with its outer group named, as spliced into rules. -/
  template : String
  /-- The regex anchored at the start, present when it declares groups inside its outer one. -/
  nested : Option Regex
  deriving DecidableEq, Repr, Inhabited

inductive DeclarationError
  | tooFewTokens
  | unknownOption (keyword : String)
  | duplicateOption (option : ValueOption)
  | badName (name : String)
  | unwrapped (regex : String)
  | badRegex (cause : Regex.Malformed)
  deriving DecidableEq, Repr, Inhabited

def DeclarationError.message : DeclarationError → String
  | .tooFewTokens => "Expect at least 3 tokens on line."
  | .unknownOption keyword => "Unknown option \"" ++ keyword ++ "\""
  | .duplicateOption option => "Duplicate option \"" ++ option.keyword ++ "\""
  | .badName name => "Invalid Value name '" ++ name ++ "' or name too long."
  | .unwrapped regex => "Value '" ++ regex ++ "' must be contained within a '()' pair."
  | .badRegex cause => cause.message

/-- Options in order; the first one that is unknown or repeated is reported. -/
def readOptions (seen : List ValueOption) :
    List (List Char) → Except DeclarationError (List ValueOption)
  | [] => .ok seen
  | token :: rest =>
    match ValueOption.ofKeyword? (String.ofList token) with
    | none => .error (.unknownOption (String.ofList token))
    | some option =>
      if seen.contains option then .error (.duplicateOption option)
      else readOptions (seen ++ [option]) rest

/-- A regex in parentheses, the last of which is not escaped. -/
def isWrapped (regex : List Char) : Bool :=
  startsWith regex ['('] && endsWith regex [')'] && !endsWith regex ['\\', ')']

/-- A regex tied to the start of the text it is matched against. -/
def anchored (regex : String) : String := "^(?:" ++ regex ++ ")"

def compileAnchored (regex : String) : Except Regex.Malformed Regex :=
  Regex.compile (anchored regex)

namespace Declaration

def has (d : Declaration) (option : ValueOption) : Bool := d.options.contains option

/-- The regex with its outer group turned into a named one. -/
def nameGroup (name : String) (regex : List Char) : String :=
  "(?P<" ++ name ++ ">" ++ String.ofList (regex.drop 1)

/-- A declaration from its parts. -/
def ofParts (options : List ValueOption) (name : String) (regex : List Char) :
    Except DeclarationError Declaration :=
  if name.isEmpty || name.utf8ByteSize > maxNameLength then .error (.badName name)
  else if !isWrapped regex then .error (.unwrapped (String.ofList regex))
  else
    let written := String.ofList regex
    match Regex.compile written with
    | .error cause => .error (.badRegex cause)
    | .ok compiled =>
      if compiled.groups.length > 1 then
        match compileAnchored written with
        | .error cause => .error (.badRegex cause)
        | .ok nested => .ok ⟨name, options, written, nameGroup name regex, some nested⟩
      else .ok ⟨name, options, written, nameGroup name regex, none⟩

/-- The third token tells the two forms apart: a regex there means that no options are given. -/
def parse (line : String) : Except DeclarationError Declaration :=
  match splitOn ' ' line.toList with
  | _ :: second :: third :: rest =>
    if startsWith third ['('] then
      ofParts [] (String.ofList second) (join [' '] (third :: rest))
    else do
      let options ← readOptions [] (splitOn ',' second)
      ofParts options (String.ofList third) (join [' '] rest)
  | _ => .error .tooFewTokens

end Declaration

end TemplateBench.TextFsm
