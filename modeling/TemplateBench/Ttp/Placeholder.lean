import TemplateBench.Regex.Matcher

/-!
Placeholders of a token pattern: `{{ name | indicator | ... }}`.

* `splitPipes` cuts a placeholder at the bars that stand outside quotes.
* `Variable.parse` reads one: the expression that its text has to match, and whether a number is
  kept as a number. The last indicator counts.
-/
namespace TemplateBench.Ttp
open Text

/-! ## Bars -/

/-- The pieces of a text between bars; `quote` is the quotation mark that is open. -/
def splitPipesFrom (quote : Option Char) : List Char → List (List Char)
  | [] => [[]]
  | c :: rest =>
    let push (pieces : List (List Char)) : List (List Char) :=
      match pieces with
      | [] => [[c]]
      | piece :: pieces => (c :: piece) :: pieces
    match quote with
    | none =>
      if c = '|' then [] :: splitPipesFrom none rest
      else push (splitPipesFrom (if c = '"' || c = '\'' then some c else none) rest)
    | some q => push (splitPipesFrom (if c = q then none else some q) rest)

/-- The pieces between bars outside quotes, trimmed. -/
def splitPipes (body : List Char) : List (List Char) := (splitPipesFrom none body).map trim

/-! ## Indicators -/

/-- The expressions behind the names of indicators. -/
def indicator? : String → Option String
  | "WORD" => some "\\S+"
  | "PHRASE" => some "\\S+(?: \\S+)+"
  | "ORPHRASE" => some "\\S+(?: \\S+)*"
  | "DIGIT" => some "\\d+"
  | "IP" => some "(?:[0-9]\x7b1,3\x7d\\.)\x7b3\x7d[0-9]\x7b1,3\x7d"
  | "PREFIX" =>
    some "(?:[0-9]\x7b1,3\x7d\\.)\x7b3\x7d[0-9]\x7b1,3\x7d/[0-9]\x7b1,2\x7d"
  | "MAC" =>
    some ("(?:[0-9a-fA-F]\x7b2\x7d(?:[:-][0-9a-fA-F]\x7b2\x7d)\x7b5\x7d|" ++
      "[0-9a-fA-F]\x7b4\x7d\\.[0-9a-fA-F]\x7b4\x7d\\.[0-9a-fA-F]\x7b4\x7d|" ++
      "[0-9a-fA-F]\x7b12\x7d)")
  | _ => none

private def isQuote (c : Char) : Bool := c == '"' || c == '\''

/-- The expression in `re("...")`; the quotes need not be alike. -/
def quotedPattern? (item : List Char) : Option (List Char) := do
  let rest ← dropFront ['r', 'e', '('] item
  let rest ← dropBack [')'] rest
  match trimStart rest with
  | [] => none
  | c :: body =>
    if !isQuote c then none
    else
      match (trimEnd body).reverse with
      | [] => none
      | d :: pattern => if isQuote d && !pattern.contains '\n' then some pattern.reverse else none

/-! ## Variables -/

structure Variable where
  name : String
  toInt : Bool := false
  deriving DecidableEq, Repr, Inhabited

inductive PlaceholderError
  | badName (name : String)
  | unsupported (item name : String)
  deriving DecidableEq, Repr, Inhabited

def isVariableName (cs : List Char) : Bool :=
  !cs.isEmpty && cs.all fun c => c == '_' || isAsciiAlphanumeric c

/-- Applies indicators in order to a variable and its expression. -/
def applyItems (v : Variable) (regex : String) :
    List (List Char) → Except PlaceholderError (Variable × String)
  | [] => .ok (v, regex)
  | item :: rest =>
    let name := String.ofList item
    if name = "to_int" then applyItems { v with toInt := true } regex rest
    else match indicator? name with
      | some pattern => applyItems v pattern rest
      | none =>
        match quotedPattern? item with
        | some pattern => applyItems v ("(?:" ++ String.ofList pattern ++ ")") rest
        | none => .error (.unsupported name v.name)

/-- Reads the body of a placeholder. -/
def Variable.parse (body : List Char) : Except PlaceholderError (Variable × String) :=
  match splitPipes body with
  | [] => .error (.badName "")
  | name :: items =>
    if isVariableName name then applyItems ⟨String.ofList name, false⟩ "\\S+" items
    else .error (.badName (String.ofList name))

end TemplateBench.Ttp
