import TemplateBench.Jinja.Token

/-!
Reading expressions.

From loosest to tightest: the choice `a if c else b`, `or`, `and`, `not`, comparisons, sums, `~`,
products, powers, the sign, and last what follows a value: attributes, items, calls, filters and
tests. Operators of one level group to the left.
-/
namespace TemplateBench.Jinja

/-! ## State -/

structure Source where
  rest : List Token
  /-- How deeply the reader is nested. -/
  depth : Nat := 0
  inMacro : Bool := false
  /-- Names of the blocks that have begun. -/
  blockNames : List String := []
  /-- Blocks that have ended. -/
  blocks : List (String × List Stmt) := []
  /-- Variables met so far, the latest first. -/
  mentioned : List String := []

abbrev Reading (α : Type) := StateT Source (Except TemplateError) α

def nestLimit : Nat := 150

namespace Reading

def malformed {α : Type} : Reading α := throw .malformed

def peek : Reading (Option Token) := do
  match (← get).rest with
  | [] => return none
  | .malformed e :: _ => throw e
  | t :: _ => return some t

def advance : Reading Unit := modify fun s => { s with rest := s.rest.drop 1 }

def next : Reading Token := do
  match ← peek with
  | some t =>
    advance
    return t
  | none => malformed

def atMark (m : String) : Reading Bool := do
  match ← peek with
  | some (.mark m') => return m == m'
  | _ => return false

def atName (name : String) : Reading Bool := do
  match ← peek with
  | some (.name name') => return name == name'
  | _ => return false

def skipMark (m : String) : Reading Bool := do
  if ← atMark m then
    advance
    return true
  else return false

def skipName (name : String) : Reading Bool := do
  if ← atName name then
    advance
    return true
  else return false

def expectMark (m : String) : Reading Unit := do
  if !(← skipMark m) then malformed

def expectName (name : String) : Reading Unit := do
  if !(← skipName name) then malformed

def identifier : Reading String := do
  match ← next with
  | .name name => return name
  | _ => malformed

/-- Reads one level deeper. -/
def nested {α : Type} (read : Reading α) : Reading α := do
  let depth := (← get).depth + 1
  if depth > nestLimit then malformed
  modify fun s => { s with depth }
  let a ← read
  modify fun s => { s with depth := depth - 1 }
  return a

end Reading

open Reading

/-! ## Operators -/

/-- Levels of binary operators that group to the left, comparisons apart. -/
inductive Level
  | either
  | both
  | sum
  | join
  | product
  | power
  deriving DecidableEq

private def operator? : Level → Token → Option BinaryOp
  | .either, .name "or" => some .either
  | .both, .name "and" => some .both
  | .sum, .mark "+" => some .add
  | .sum, .mark "-" => some .sub
  | .join, .mark "~" => some .join
  | .product, .mark "*" => some .mul
  | .product, .mark "/" => some .div
  | .product, .mark "//" => some .floorDiv
  | .product, .mark "%" => some .mod
  | .power, .mark "**" => some .pow
  | _, _ => none

private def comparison? : Token → Option BinaryOp
  | .mark "==" => some .equal
  | .mark "!=" => some .unequal
  | .mark "<" => some .less
  | .mark "<=" => some .atMost
  | .mark ">" => some .greater
  | .mark ">=" => some .atLeast
  | .name "in" => some .within
  | _ => none

/-- A token that begins the single argument that a test takes without brackets. -/
private def beginsTestArgument : Token → Bool
  | .name name => !(name == "and" || name == "or" || name == "else" || name == "is")
  | .string _ => true
  | .int _ => true
  | .float _ => true
  | .mark m => m == "+" || m == "-" || m == "[" || m == "\x7b"
  | _ => false

/-! ## Expressions -/

mutual

def readExpr : Nat → Reading Expr
  | 0 => malformed
  | n + 1 => nested do readChoice n (← readLevel n .either)

/-- An expression that is no choice. -/
def readPlain : Nat → Reading Expr
  | 0 => malformed
  | n + 1 => readLevel n .either

private def readChoice : Nat → Expr → Reading Expr
  | 0, _ => malformed
  | n + 1, yes => do
    if ← skipName "if" then
      let condition ← readLevel n .either
      let no ← if ← skipName "else" then some <$> (do readChoice n (← readLevel n .either)) else pure none
      readChoice n (.choice condition yes no)
    else return yes

private def readLevel : Nat → Level → Reading Expr
  | 0, _ => malformed
  | n + 1, level => do readLevelRest n level (← readBelow n level)

private def readLevelRest : Nat → Level → Expr → Reading Expr
  | 0, _, _ => malformed
  | n + 1, level, left => do
    match (← peek).bind (operator? level) with
    | some op =>
      advance
      let right ← readBelow n level
      readLevelRest n level (.binary op left right)
    | none => return left

private def readBelow : Nat → Level → Reading Expr
  | 0, _ => malformed
  | n + 1, level =>
    match level with
    | .either => readLevel n .both
    | .both => readNegation n
    | .sum => readLevel n .join
    | .join => readLevel n .product
    | .product => readLevel n .power
    | .power => readSigned n true

private def readNegation : Nat → Reading Expr
  | 0 => malformed
  | n + 1 => do
    if ← skipName "not" then return .unary .negate (← readNegation n)
    else readComparison n (← readLevel n .sum)

private def readComparison : Nat → Expr → Reading Expr
  | 0, _ => malformed
  | n + 1, left => do
    match (← peek).bind comparison? with
    | some op =>
      advance
      let right ← readLevel n .sum
      readComparison n (.binary op left right)
    | none =>
      if ← skipName "not" then
        expectName "in"
        let right ← readLevel n .sum
        readComparison n (.unary .negate (.binary .within left right))
      else return left

/-- A value with what follows it; filters and tests apply to the signed value. -/
private def readSigned : Nat → Bool → Reading Expr
  | 0, _ => malformed
  | n + 1, filters => do
    let value ←
      if ← skipMark "-" then Expr.unary .minus <$> readSigned n false
      else do readPostfix n (← readPrimary n)
    if filters then readFilters n value else return value

private def readPostfix : Nat → Expr → Reading Expr
  | 0, _ => malformed
  | n + 1, target => do
    match ← peek with
    | some (.mark ".") =>
      advance
      match ← next with
      | .name name => readPostfix n (.attribute target name)
      | .int i => readPostfix n (.item target (.literal (.int i)))
      | _ => malformed
    | some (.mark "[") =>
      advance
      let e ← readSubscript n target
      readPostfix n e
    | some (.mark "(") =>
      let arguments ← readArguments n
      readPostfix n (.call target arguments)
    | _ => return target

/-- An item or a slice, after its opening bracket. -/
private def readSubscript : Nat → Expr → Reading Expr
  | 0, _ => malformed
  | n + 1, target => do
    let start ← if ← atMark ":" then pure none else some <$> readExpr n
    if ← skipMark ":" then
      let stop ← if (← atMark "]") || (← atMark ":") then pure none else some <$> readExpr n
      let step ←
        if ← skipMark ":" then (do if ← atMark "]" then pure none else some <$> readExpr n)
        else pure none
      expectMark "]"
      return .slice target start stop step
    else
      expectMark "]"
      match start with
      | some key => return .item target key
      | none => malformed

private def readFilters : Nat → Expr → Reading Expr
  | 0, _ => malformed
  | n + 1, target => do
    if ← skipMark "|" then
      let name ← identifier
      let arguments ← if ← atMark "(" then readArguments n else pure []
      readFilters n (.filter name target arguments)
    else if ← skipName "is" then
      let negated ← skipName "not"
      let name ← identifier
      let arguments ← readTestArguments n
      let e := Expr.test name target arguments
      readFilters n (if negated then .unary .negate e else e)
    else return target

private def readTestArguments : Nat → Reading (List Argument)
  | 0 => malformed
  | n + 1 => do
    if ← atMark "(" then readArguments n
    else if (← peek).any beginsTestArgument then return [.positional (← readSigned n false)]
    else return []

private def readPrimary : Nat → Reading Expr
  | 0 => malformed
  | n + 1 => nested do
    match ← next with
    | .name name =>
      match name with
      | "true" | "True" => return .literal (.bool true)
      | "false" | "False" => return .literal (.bool false)
      | "none" | "None" => return .literal .none
      | name =>
        modify fun s => { s with mentioned := name :: s.mentioned }
        return .variable name
    | .string s => return .literal (.string s)
    | .int i => return .literal (.int i)
    | .float x => return .literal (.float x)
    | .mark "(" => readBracketed n
    | .mark "[" => return .list (← readItems n "]" [])
    | .mark "\x7b" => return .map (← readEntries n [])
    | _ => malformed

/-- A bracketed expression, or a list in round brackets, which has a comma. -/
private def readBracketed : Nat → Reading Expr
  | 0 => malformed
  | n + 1 => do
    if ← skipMark ")" then return .list []
    else
      let first ← readExpr n
      if ← atMark "," then return .list (← readItems n ")" [first])
      else
        expectMark ")"
        return first

/-- Items up to a closing bracket, the last one first in `acc`. -/
private def readItems : Nat → String → List Expr → Reading (List Expr)
  | 0, _, _ => malformed
  | n + 1, closing, acc => do
    if ← skipMark closing then return acc.reverse
    else
      if !acc.isEmpty then expectMark ","
      if ← skipMark closing then return acc.reverse
      else
        let item ← readExpr n
        readItems n closing (item :: acc)

private def readEntries : Nat → List (Expr × Expr) → Reading (List (Expr × Expr))
  | 0, _ => malformed
  | n + 1, acc => do
    if ← skipMark "\x7d" then return acc.reverse
    else
      if !acc.isEmpty then expectMark ","
      if ← skipMark "\x7d" then return acc.reverse
      else
        let key ← readExpr n
        expectMark ":"
        let value ← readExpr n
        readEntries n ((key, value) :: acc)

def readArguments : Nat → Reading (List Argument)
  | 0 => malformed
  | n + 1 => do
    expectMark "("
    readArgumentsRest n false []

/-- Arguments up to the closing bracket; after a named one no positional one may stand. -/
private def readArgumentsRest : Nat → Bool → List Argument → Reading (List Argument)
  | 0, _, _ => malformed
  | n + 1, named, acc => do
    if ← skipMark ")" then return acc.reverse
    else
      if !acc.isEmpty then expectMark ","
      if ← skipMark ")" then return acc.reverse
      else if ← skipMark "**" then
        let e ← readExpr n
        readArgumentsRest n true (.spreadNamed e :: acc)
      else if ← skipMark "*" then
        let e ← readExpr n
        readArgumentsRest n named (.spread e :: acc)
      else
        let e ← readExpr n
        match e with
        | .variable name =>
          if ← skipMark "=" then
            let value ← readPlain n
            readArgumentsRest n true (.named name value :: acc)
          else if named then malformed
          else readArgumentsRest n named (.positional e :: acc)
        | _ =>
          if named then malformed else readArgumentsRest n named (.positional e :: acc)

end

end TemplateBench.Jinja
