import TemplateBench.Jinja.Expression

/-!
Reading statements, and whole templates.
-/
namespace TemplateBench.Jinja
open Reading

/-! ## Delimiters -/

private def expectBlockEnd : Reading Unit := do
  match ← next with
  | .blockEnd => return ()
  | _ => malformed

private def expectEmitEnd : Reading Unit := do
  match ← next with
  | .emitEnd => return ()
  | _ => malformed

private def atBlockEnd : Reading Bool := do
  match ← peek with
  | some .blockEnd => return true
  | _ => return false

/-! ## Targets -/

def reservedNames : List String := ["true", "True", "false", "False", "none", "None", "loop", "self"]

private def readTargetName : Reading String := do
  let name ← identifier
  if reservedNames.contains name then malformed else return name

private def readAttributes : Nat → Target → Expr → Reading Target
  | 0, _, _ => malformed
  | n + 1, target, object => do
    if ← skipMark "." then
      let name ← identifier
      readAttributes n (.attribute object name) (.attribute object name)
    else return target

private def readNameTarget (n : Nat) (dotted : Bool) : Reading Target := do
  let name ← readTargetName
  if dotted then readAttributes n (.name name) (.variable name) else return .name name

private def endsTargets : Token → Bool
  | .mark ")" => true
  | .name "in" => true
  | .blockEnd => true
  | .emitEnd => true
  | _ => false

mutual

/-- A target, or several with commas between them. -/
private def readTargets : Nat → Bool → Reading Target
  | 0, _ => malformed
  | n + 1, dotted => do
    let (targets, several) ← readTargetsRest n dotted false []
    match targets, several with
    | [t], false => return t
    | ts, _ => return .list ts

private def readTargetsRest : Nat → Bool → Bool → List Target → Reading (List Target × Bool)
  | 0, _, _, _ => malformed
  | n + 1, dotted, several, acc => do
    if !acc.isEmpty then expectMark ","
    if (← peek).any endsTargets then return (acc.reverse, several)
    else
      let t ← readTargetItem n dotted
      if ← atMark "," then readTargetsRest n dotted true (t :: acc)
      else return ((t :: acc).reverse, several)

private def readTargetItem : Nat → Bool → Reading Target
  | 0, _ => malformed
  | n + 1, dotted => do
    if ← skipMark "(" then
      let t ← readTargets n false
      expectMark ")"
      return t
    else readNameTarget n dotted

end

/-! ## Parts of statements -/

private def readFilterChain : Nat → FilterChain → Reading FilterChain
  | 0, _ => malformed
  | n + 1, acc => do
    if ← atBlockEnd then
      if acc.isEmpty then malformed else return acc.reverse
    else
      if !acc.isEmpty then expectMark "|"
      let name ← identifier
      let arguments ← if ← atMark "(" then readArguments n else pure []
      readFilterChain n ((name, arguments) :: acc)

/-- The parameters of a declaration, after the opening bracket; once one has a default, all the
following ones have. -/
private def readParameters : Nat → List String → List Expr → Reading (List String × List Expr)
  | 0, _, _ => malformed
  | n + 1, names, defaults => do
    if ← skipMark ")" then return (names.reverse, defaults.reverse)
    else
      if !names.isEmpty then expectMark ","
      if ← skipMark ")" then return (names.reverse, defaults.reverse)
      else
        let name ← readTargetName
        if ← skipMark "=" then
          let e ← readExpr n
          readParameters n (name :: names) (e :: defaults)
        else if defaults.isEmpty then readParameters n (name :: names) defaults
        else malformed

private def skipContext : Reading Unit := do
  if (← skipName "with") || (← skipName "without") then expectName "context"

private def readBindings : Nat → List (Target × Expr) → Reading (List (Target × Expr))
  | 0, _ => malformed
  | n + 1, acc => do
    if ← atBlockEnd then return acc.reverse
    else
      if !acc.isEmpty then expectMark ","
      let target ← readTargetItem n false
      expectMark "="
      let e ← readExpr n
      readBindings n ((target, e) :: acc)

private def readImportedNames : Nat → Bool → Reading Unit
  | 0, _ => malformed
  | n + 1, first => do
    if ← atBlockEnd then return ()
    else
      if !first then expectMark ","
      if ← atBlockEnd then return ()
      else
        let _ ← readTargetName
        if ← skipName "as" then
          let _ ← readTargetName
        readImportedNames n false

private def mentionedSince (before : Nat) : Reading (List String) := do
  let names := (← get).mentioned
  return (names.take (names.length - before)).eraseDups

private def calls : Expr → Reading (Expr × List Argument)
  | .call callee arguments => return (callee, arguments)
  | _ => malformed

/-! ## Statements -/

mutual

/-- Statements up to a statement of one of the given words, which is left to be read. -/
private def readBody : Nat → List String → Reading (List Stmt)
  | 0, _ => malformed
  | n + 1, words => do
    match ← peek with
    | none => return []
    | some t =>
      advance
      match t with
      | .data text => return .data text :: (← readBody n words)
      | .emitStart =>
        let e ← readExpr n
        expectEmitEnd
        return .emit e :: (← readBody n words)
      | .blockStart =>
        match ← peek with
        | none => malformed
        | some (.name word) =>
          if words.contains word then return []
          else readStmtThenBody n words
        | some _ => readStmtThenBody n words
      | _ => malformed

private def readStmtThenBody : Nat → List String → Reading (List Stmt)
  | 0, _ => malformed
  | n + 1, words => do
    let s ← nested (readStmt n)
    expectBlockEnd
    return s :: (← readBody n words)

/-- A body after the end of its opening statement, and the word that ends it. -/
private def readClosedBody : Nat → String → Reading (List Stmt)
  | 0, _ => malformed
  | n + 1, word => do
    expectBlockEnd
    let body ← readBody n [word]
    let _ ← next
    return body

private def readStmt : Nat → Reading Stmt
  | 0 => malformed
  | n + 1 => do
    match ← next with
    | .name "for" => readLoop n
    | .name "if" => readCond n
    | .name "with" =>
      let bindings ← readBindings n []
      return .within bindings (← readClosedBody n "endwith")
    | .name "set" => readAssignment n
    | .name "autoescape" =>
      let mode ← readExpr n
      return .autoescape mode (← readClosedBody n "endautoescape")
    | .name "filter" =>
      let filters ← readFilterChain n []
      return .filtered filters (← readClosedBody n "endfilter")
    | .name "block" => readBlock n
    | .name "extends" => return .parent (← readExpr n)
    | .name "include" => readInclude n
    | .name "import" =>
      let e ← readExpr n
      expectName "as"
      let _ ← readExpr n
      skipContext
      return .modules e
    | .name "from" =>
      let e ← readExpr n
      expectName "import"
      readImportedNames n true
      return .modules e
    | .name "macro" =>
      let name ← identifier
      expectMark "("
      let before := (← get).mentioned.length
      let (parameters, defaults) ← readParameters n [] []
      let body ← readMacroBody n "endmacro"
      return .declare (.mk name parameters defaults (← mentionedSince before) body)
    | .name "call" =>
      let before := (← get).mentioned.length
      let (parameters, defaults) ← if ← skipMark "(" then readParameters n [] [] else pure ([], [])
      let (callee, arguments) ← calls (← readExpr n)
      let body ← readMacroBody n "endcall"
      let caller := .mk "caller" parameters defaults (← mentionedSince before) body
      return .callWith callee arguments caller
    | .name "do" =>
      let (callee, arguments) ← calls (← readExpr n)
      return .perform callee arguments
    | _ => malformed

private def readLoop : Nat → Reading Stmt
  | 0 => malformed
  | n + 1 => do
    let target ← readTargets n false
    expectName "in"
    let items ← readPlain n
    let condition ← if ← skipName "if" then some <$> readExpr n else pure none
    let recursive ← skipName "recursive"
    expectBlockEnd
    let body ← readBody n ["endfor", "else"]
    let otherwise ← if ← skipName "else" then readClosedElse n "endfor" else pure []
    let _ ← next
    return .loop (.mk target items condition recursive body otherwise)

/-- The body after `else`, without the word that ends it. -/
private def readClosedElse : Nat → String → Reading (List Stmt)
  | 0, _ => malformed
  | n + 1, word => do
    expectBlockEnd
    readBody n [word]

private def readCond : Nat → Reading Stmt
  | 0 => malformed
  | n + 1 => do
    let condition ← readExpr n
    expectBlockEnd
    let yes ← readBody n ["endif", "else", "elif"]
    match ← peek with
    | some (.name "else") =>
      advance
      let no ← readClosedBody n "endif"
      return .cond condition yes no
    | some (.name "elif") =>
      advance
      let inner ← readCond n
      return .cond condition yes [inner]
    | some _ =>
      advance
      return .cond condition yes []
    | none => return .cond condition yes []

private def readAssignment : Nat → Reading Stmt
  | 0 => malformed
  | n + 1 => do
    let bracketed ← atMark "("
    let target ← readTargets n true
    if !bracketed && ((← atBlockEnd) || (← atMark "|")) then
      let filters ← if ← skipMark "|" then readFilterChain n [] else pure []
      return .capture target filters (← readClosedBody n "endset")
    else
      expectMark "="
      return .assign target (← readExpr n)

private def readBlock : Nat → Reading Stmt
  | 0 => malformed
  | n + 1 => do
    if (← get).inMacro then malformed
    let name ← identifier
    if (← get).blockNames.contains name then malformed
    modify fun s => { s with blockNames := name :: s.blockNames }
    let body ← readClosedBody n "endblock"
    modify fun s => { s with blocks := (name, body) :: s.blocks }
    match ← peek with
    | some (.name trailing) =>
      if trailing == name then
        advance
        return .block name body
      else malformed
    | _ => return .block name body

private def readInclude : Nat → Reading Stmt
  | 0 => malformed
  | n + 1 => do
    let e ← readExpr n
    skipContext
    let ignoreMissing ← skipName "ignore"
    if ignoreMissing then
      expectName "missing"
      skipContext
    return .include e ignoreMissing

private def readMacroBody : Nat → String → Reading (List Stmt)
  | 0, _ => malformed
  | n + 1, word => do
    let outer := (← get).inMacro
    modify fun s => { s with inMacro := true }
    let body ← readClosedBody n word
    modify fun s => { s with inMacro := outer }
    return body

end

/-! ## Templates -/

def Template.read (template : String) : Except TemplateError Template := do
  let ts := tokens template
  let (body, s) ← (readBody (24 * ts.length + 24) []).run { rest := ts }
  return ⟨body, s.blocks⟩

end TemplateBench.Jinja
