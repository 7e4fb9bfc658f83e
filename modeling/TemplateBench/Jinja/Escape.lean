import TemplateBench.Jinja.Value

/-!
How printed values are escaped: not at all, for HTML, or as JSON.
-/
namespace TemplateBench.Jinja

inductive EscapeMode
  | plain
  | html
  | json
  deriving DecidableEq, Repr, Inhabited

def escapeHtmlChar (c : Char) : List Char :=
  match c with
  | '<' => "&lt;".toList
  | '>' => "&gt;".toList
  | '&' => "&amp;".toList
  | '"' => "&quot;".toList
  | '\'' => "&#x27;".toList
  | '/' => "&#x2f;".toList
  | c => [c]

def escapeHtml (s : String) : String := String.ofList (s.toList.flatMap escapeHtmlChar)

/-- What a value prints; a safe text is never escaped. -/
def EscapeMode.print (mode : EscapeMode) (v : Value) : String :=
  match v with
  | .string s true => s
  | v =>
    match mode with
    | .plain => v.text
    | .html => escapeHtml v.text
    | .json => v.toJson.compact

/-- Texts that were printed under escaping are safe. -/
def EscapeMode.captured (mode : EscapeMode) (s : String) : Value := .string s (mode != .plain)

end TemplateBench.Jinja
