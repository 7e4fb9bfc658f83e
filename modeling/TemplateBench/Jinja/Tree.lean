/-!
Trees of templates: expressions, and the statements between the texts of a template.
-/
namespace TemplateBench.Jinja

/-! ## Expressions -/

inductive Literal
  | none
  | bool (b : Bool)
  | int (n : Nat)
  | float (x : Float)
  | string (s : String)
  deriving Repr, Inhabited

inductive UnaryOp
  | negate
  | minus
  deriving DecidableEq, Repr, Inhabited

inductive BinaryOp
  | either
  | both
  | equal
  | unequal
  | less
  | atMost
  | greater
  | atLeast
  | within
  | add
  | sub
  | join
  | mul
  | div
  | floorDiv
  | mod
  | pow
  deriving DecidableEq, Repr, Inhabited

mutual

inductive Expr
  | literal (l : Literal)
  | variable (name : String)
  | list (items : List Expr)
  | map (entries : List (Expr × Expr))
  | unary (op : UnaryOp) (operand : Expr)
  | binary (op : BinaryOp) (left right : Expr)
  | choice (condition yes : Expr) (no : Option Expr)
  | filter (name : String) (target : Expr) (arguments : List Argument)
  | test (name : String) (target : Expr) (arguments : List Argument)
  | attribute (target : Expr) (name : String)
  | item (target key : Expr)
  | slice (target : Expr) (start stop step : Option Expr)
  | call (callee : Expr) (arguments : List Argument)

inductive Argument
  | positional (value : Expr)
  | named (name : String) (value : Expr)
  | spread (values : Expr)
  | spreadNamed (values : Expr)

end

instance : Inhabited Expr := ⟨.literal .none⟩

/-! ## Statements -/

/-- What is assigned to. -/
inductive Target
  | name (name : String)
  | attribute (object : Expr) (name : String)
  | list (targets : List Target)

instance : Inhabited Target := ⟨.name ""⟩

/-- The filters of a block, applied from the first to the last. -/
abbrev FilterChain := List (String × List Argument)

mutual

inductive Stmt
  | data (text : String)
  | emit (value : Expr)
  | loop (l : Loop)
  | cond (condition : Expr) (yes no : List Stmt)
  | within (bindings : List (Target × Expr)) (body : List Stmt)
  | assign (target : Target) (value : Expr)
  | capture (target : Target) (filters : FilterChain) (body : List Stmt)
  | autoescape (mode : Expr) (body : List Stmt)
  | filtered (filters : FilterChain) (body : List Stmt)
  | block (name : String) (body : List Stmt)
  | parent (template : Expr)
  | include (template : Expr) (ignoreMissing : Bool)
  | modules (template : Expr)
  | declare (m : Macro)
  | callWith (callee : Expr) (arguments : List Argument) (caller : Macro)
  | perform (callee : Expr) (arguments : List Argument)

inductive Loop
  | mk (target : Target) (items : Expr) (condition : Option Expr) (recursive : Bool)
    (body otherwise : List Stmt)

/-- Defaults belong to the last parameters; `mentioned` are the variables that stand in it. -/
inductive Macro
  | mk (name : String) (parameters : List String) (defaults : List Expr) (mentioned : List String)
    (body : List Stmt)

end

instance : Inhabited Stmt := ⟨.data ""⟩
instance : Inhabited Macro := ⟨.mk "" [] [] [] []⟩

namespace Macro

def name : Macro → String
  | .mk name _ _ _ _ => name

def parameters : Macro → List String
  | .mk _ parameters _ _ _ => parameters

def defaults : Macro → List Expr
  | .mk _ _ defaults _ _ => defaults

def mentioned : Macro → List String
  | .mk _ _ _ mentioned _ => mentioned

def body : Macro → List Stmt
  | .mk _ _ _ _ body => body

/-- Parameters with their defaults. -/
def signature (m : Macro) : List (String × Option Expr) :=
  let required := m.parameters.length - m.defaults.length
  (m.parameters.take required).map (·, none) ++
    (m.parameters.drop required).zip (m.defaults.map some)

end Macro

/-- A template that has been read: its statements and its blocks by name. -/
structure Template where
  body : List Stmt
  blocks : List (String × List Stmt) := []

/-! ## Errors -/

/-- What makes a template malformed. -/
inductive TemplateError
  | malformed
  | badEscape
  deriving DecidableEq, Repr, Inhabited

def TemplateError.message : TemplateError → String
  | .malformed => "syntax error"
  | .badEscape => "bad string escape"

end TemplateBench.Jinja
