import TemplateBench.Files.Path

/-!
Command line arguments: options with and without values, and words.

* `--name value`, `--name=value`, `-n value`, `-nvalue` and `-n=value` give an option its value. A
  value in an argument of its own does not begin with a hyphen, unless it is a hyphen alone.
* After `--` every argument is a word.
* No option is given twice.
-/
namespace TemplateBench.Command

/-! ## Options -/

/-- An option by its long name; the short one is a letter. -/
structure Opt where
  long : String
  short : Option Char := none
  takesValue : Bool := true
  deriving DecidableEq, Repr, Inhabited

inductive UsageError
  | unknownOption (text : String)
  | missingValue (option : String)
  | unexpectedValue (option : String)
  | repeated (option : String)
  | unexpectedWord (word : String)
  | missingWord (what : String)
  | missingOption (option : String)
  | badValue (option value : String)
  | unknownCommand (word : String)
  | noCommand
  deriving DecidableEq, Repr, Inhabited

def UsageError.message : UsageError → String
  | .unknownOption text => "unexpected argument '" ++ text ++ "' found"
  | .missingValue option => "a value is required for '--" ++ option ++ "' but none was supplied"
  | .unexpectedValue option => "the option '--" ++ option ++ "' takes no value"
  | .repeated option => "the option '--" ++ option ++ "' cannot be used multiple times"
  | .unexpectedWord word => "unexpected argument '" ++ word ++ "' found"
  | .missingWord what => "the argument <" ++ what ++ "> was not provided"
  | .missingOption option => "the option '--" ++ option ++ "' was not provided"
  | .badValue option value => "invalid value '" ++ value ++ "' for '--" ++ option ++ "'"
  | .unknownCommand word => "unrecognized subcommand '" ++ word ++ "'"
  | .noCommand => "a subcommand is required but one was not provided"

/-! ## Reading -/

/-- What arguments say: the options that were given, with their values, and the words. -/
structure Arguments where
  given : List (String × Option String) := []
  words : List String := []
  deriving DecidableEq, Repr, Inhabited

abbrev Usage (α : Type) := Except UsageError α

namespace Arguments

def give (a : Arguments) (option : String) (value : Option String) : Usage Arguments :=
  if a.given.any (·.1 == option) then .error (.repeated option)
  else .ok { a with given := a.given ++ [(option, value)] }

/-- The option that an argument names, and the value that is attached to it. -/
def option? (options : List Opt) (arg : String) : Usage (Option (Opt × Option String)) :=
  let find (test : Opt → Bool) (attached : Option String) : Usage (Option (Opt × Option String)) :=
    match options.find? test with
    | some o => .ok (some (o, attached))
    | none => .error (.unknownOption arg)
  match arg.toList with
  | '-' :: '-' :: name =>
    let (name, rest) := name.span (· != '=')
    find (·.long == String.ofList name) (rest.tail?.map String.ofList)
  | '-' :: c :: rest =>
    let attached := match rest with
      | [] => none
      | '=' :: value => some (String.ofList value)
      | value => some (String.ofList value)
    find (·.short == some c) attached
  | _ => .ok none

/-- A hyphen alone is a value, any other text with a hyphen in front is not. -/
def isValue (arg : String) : Bool := arg == "-" || arg.toList.head? != some '-'

/-- Reads options and words to the end, or up to the first word if `single` is set; what is left
unread comes second. -/
def read (options : List Opt) (single : Bool) :
    List String → Arguments → Usage (Arguments × List String)
  | [], a => .ok (a, [])
  | "--" :: rest, a =>
    if single then .error (.unexpectedWord "--")
    else .ok ({ a with words := a.words ++ rest }, [])
  | arg :: rest, a =>
    match option? options arg with
    | .error e => .error e
    | .ok none =>
      let a := { a with words := a.words ++ [arg] }
      if single then .ok (a, rest) else read options single rest a
    | .ok (some (o, attached)) =>
      if o.takesValue then
        match attached, rest with
        | some value, rest =>
          match a.give o.long (some value) with
          | .ok a => read options single rest a
          | .error e => .error e
        | none, value :: rest =>
          if isValue value then
            match a.give o.long (some value) with
            | .ok a => read options single rest a
            | .error e => .error e
          else .error (.missingValue o.long)
        | none, [] => .error (.missingValue o.long)
      else if attached.isSome then .error (.unexpectedValue o.long)
      else
        match a.give o.long none with
        | .ok a => read options single rest a
        | .error e => .error e

def has (a : Arguments) (option : String) : Bool := a.given.any (·.1 == option)

def value? (a : Arguments) (option : String) : Option String :=
  (a.given.lookup option).bind id

/-- The value of an option that names a file or folder, and so is not empty. -/
def path? (a : Arguments) (option : String) : Usage (Option Path) :=
  match a.value? option with
  | some "" => .error (.missingValue option)
  | v => .ok (v.map Path.mk)

/-- The value of an option that has to be given. -/
def required {α : Type} (option : String) : Option α → Usage α
  | some x => .ok x
  | none => .error (.missingOption option)

/-- The value of an option with a reader of its own. -/
def parsed? {α : Type} (a : Arguments) (option : String) (parse : String → Option α) :
    Usage (Option α) :=
  match a.value? option with
  | none => .ok none
  | some v =>
    match parse v with
    | some x => .ok (some x)
    | none => .error (.badValue option v)

/-- A command that takes no words. -/
def noWords (a : Arguments) : Usage Unit :=
  match a.words with
  | [] => .ok ()
  | word :: _ => .error (.unexpectedWord word)

/-- The one word that a command takes. -/
def word (a : Arguments) (what : String) : Usage String :=
  match a.words with
  | [word] => .ok word
  | [] => .error (.missingWord what)
  | _ :: extra :: _ => .error (.unexpectedWord extra)

end Arguments

/-! ## Commands -/

/-- A command with what is said before and behind its name. -/
structure Line where
  command : String
  before : Arguments
  behind : Arguments
  deriving DecidableEq, Repr, Inhabited

namespace Line

/-- Reads a command line. Each command has options of its own; the general ones may stand on either
side of its name. -/
def read (general : List Opt) (own : List (String × List Opt)) (args : List String) : Usage Line := do
  let (before, rest) ← Arguments.read general true args {}
  match before.words with
  | [] => .error .noCommand
  | command :: _ =>
    match own.lookup command with
    | none => .error (.unknownCommand command)
    | some options => do
      let (behind, _) ← Arguments.read (options ++ general) false rest {}
      return ⟨command, before, behind⟩

/-- The value of a general option; the one behind the command counts. -/
def value? (l : Line) (option : String) : Option String :=
  (l.behind.value? option).or (l.before.value? option)

def path? (l : Line) (option : String) : Usage (Option Path) := do
  let before ← l.before.path? option
  let behind ← l.behind.path? option
  return behind.or before

end Line

end TemplateBench.Command
