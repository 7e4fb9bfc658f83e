import TemplateBench.Text.Letters

/-!
Placeholders in the pattern of a rule.

`expand` replaces `$name` and `${name}` by the template of that value and `$$` by one dollar sign;
what it inserts is not read again. Any other use of a dollar sign is an error.
-/
namespace TemplateBench.TextFsm
open Text

/-- Value names with their templates. -/
abbrev Templates := List (String × String)

inductive PlaceholderError
  | invalid
  | unknown (name : String)
  deriving DecidableEq, Repr, Inhabited

/-! ## Names -/

def isNameStart (c : Char) : Bool := c == '_' || isAsciiLetter c

def isNameChar (c : Char) : Bool := c == '_' || isAsciiAlphanumeric c

/-- A letter or underscore, then letters, digits and underscores, all ASCII. -/
def isIdentifier : List Char → Bool
  | [] => false
  | c :: rest => isNameStart c && rest.all isNameChar

/-! ## Expansion -/

def lookUp (templates : Templates) (name : List Char) : Except PlaceholderError (List Char) :=
  match templates.lookup (String.ofList name) with
  | some template => .ok template.toList
  | none => .error (.unknown (String.ofList name))

/-- What is being read: plain text, a dollar sign, a bare name or a braced name, last character
first. -/
inductive Reading
  | plain
  | dollar
  | bare (name : List Char)
  | braced (name : List Char)
  deriving DecidableEq, Repr, Inhabited

def expandFrom (templates : Templates) : Reading → List Char → Except PlaceholderError (List Char)
  | .plain, [] => .ok []
  | .plain, c :: rest =>
    if c = '$' then expandFrom templates .dollar rest
    else do return c :: (← expandFrom templates .plain rest)
  | .dollar, [] => .error .invalid
  | .dollar, c :: rest =>
    if c = '$' then do return '$' :: (← expandFrom templates .plain rest)
    else if c = '\x7b' then expandFrom templates (.braced []) rest
    else if isNameStart c then expandFrom templates (.bare [c]) rest
    else .error .invalid
  | .bare name, [] => lookUp templates name.reverse
  | .bare name, c :: rest =>
    if isNameChar c then expandFrom templates (.bare (c :: name)) rest
    else do
      let template ← lookUp templates name.reverse
      if c = '$' then return template ++ (← expandFrom templates .dollar rest)
      else return template ++ c :: (← expandFrom templates .plain rest)
  | .braced _, [] => .error .invalid
  | .braced name, c :: rest =>
    if c ≠ '\x7d' then expandFrom templates (.braced (c :: name)) rest
    else if isIdentifier name.reverse then do
      let template ← lookUp templates name.reverse
      return template ++ (← expandFrom templates .plain rest)
    else .error .invalid

def expand (templates : Templates) (pattern : List Char) :
    Except PlaceholderError (List Char) :=
  expandFrom templates .plain pattern

end TemplateBench.TextFsm
