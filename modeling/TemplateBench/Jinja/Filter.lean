import TemplateBench.Jinja.Escape
import TemplateBench.Jinja.Format
import TemplateBench.Jinja.Test

/-!
The filters of the language, as in `x | upper`.

* Texts that are compared or sorted are told apart by their letters, not by their case, unless
  `case_sensitive` asks for it.
* Filters over the items of a value give lists; `map`, `select` and `reject` run other filters and
  tests on each item.
-/
namespace TemplateBench.Jinja
open Text Decimal

/-! ## Texts -/

private def isAsciiPunctuation (c : Char) : Bool :=
  let n := c.toNat
  (33 ≤ n && n ≤ 47) || (58 ≤ n && n ≤ 64) || (91 ≤ n && n ≤ 96) || (123 ≤ n && n ≤ 126)

private def titleFrom : Bool → List Char → List Char
  | _, [] => []
  | first, c :: rest =>
    if isAsciiPunctuation c || isBlank c then c :: titleFrom true rest
    else (if first then upperChar c else lowerChar c) ++ titleFrom false rest

private def capitalize : List Char → List Char
  | [] => []
  | c :: rest => upperChar c ++ lower rest

private def replaceFrom (old new : List Char) : Nat → List Char → List Char
  | 0, cs => cs
  | _, [] => if old.isEmpty then new else []
  | n + 1, c :: rest =>
    if old.isEmpty then new ++ c :: replaceFrom old new n rest
    else match dropFront old (c :: rest) with
      | some after => new ++ replaceFrom old new n after
      | none => c :: replaceFrom old new n rest

private def trimSet (set cs : List Char) : List Char :=
  let front := cs.dropWhile set.contains
  (front.reverse.dropWhile set.contains).reverse

/-- Cuts a text at a separator, at most `limit` times; an empty one lies around every character. -/
private def splitText (sep : List Char) : Nat → Option Nat → List Char → List Char → List (List Char)
  | 0, _, acc, cs => [acc.reverse ++ cs]
  | _, some 0, acc, cs => [acc.reverse ++ cs]
  | _, _, acc, [] => [acc.reverse]
  | n + 1, limit, acc, c :: rest =>
    match dropFront sep (c :: rest) with
    | some after => acc.reverse :: splitText sep n (limit.map (· - 1)) [] after
    | none => splitText sep n limit (c :: acc) rest

private def splitEmpty (limit : Option Nat) (cs : List Char) : List (List Char) :=
  let pieces := [] :: (cs.map ([·])) ++ [[]]
  match limit with
  | none => pieces
  | some n => if pieces.length ≤ n + 1 then pieces else pieces.take n ++ [(pieces.drop n).flatten]

private def splitBlank (limit : Option Nat) : Nat → List Char → List (List Char)
  | 0, _ => []
  | n + 1, cs =>
    let cs := trimStart cs
    if cs.isEmpty then []
    else if limit == some 0 then [cs]
    else cs.takeWhile (!isBlank ·) :: splitBlank (limit.map (· - 1)) n (cs.dropWhile (!isBlank ·))

private def dropLineEnd (cs : List Char) : List Char :=
  let cs := if cs.getLast? == some '\n' then cs.dropLast else cs
  if cs.getLast? == some '\r' then cs.dropLast else cs

private def indentLines (width : Nat) (first blank : Bool) (cs : List Char) : List Char :=
  let margin := List.replicate width ' '
  let lines := splitOn '\n' (dropLineEnd cs)
  let indentLine (line : List Char) := if line.isEmpty && !blank then line else margin ++ line
  let lines := match lines with
    | [] => []
    | l :: rest => (if first then indentLine l else l) :: rest.map indentLine
  dropLineEnd (lines.flatMap (· ++ ['\n']))

/-! ## Numbers -/

private def clampInt (n : Int) : Int := max Value.least (min Value.greatest n)

/-- The whole part of a number, kept within the range of integers. -/
private def wholePart (x : Float) : Int :=
  if x.isNaN then 0
  else match Value.wholeOf? (truncate x) with
    | some n => clampInt n
    | none => if x < 0.0 then Value.least else Value.greatest

private def readWord? (cs : List Char) : Option Float :=
  let word := String.ofList (lower cs)
  if word == "inf" || word == "infinity" then some (1.0 / 0.0)
  else if word == "nan" then some (0.0 / 0.0)
  else none

private def readAnyFloat? (s : String) : Option Float :=
  let cs := s.toList
  match readSignedFloat? cs with
  | some x => some x
  | none =>
    match cs with
    | '-' :: rest => (readWord? rest).map (-·)
    | '+' :: rest => readWord? rest
    | cs => readWord? cs

private def readInt? (s : String) : Option Int :=
  let n := match s.toList with
    | '-' :: rest => (readNat? 10 rest).map fun n => -(n : Int)
    | '+' :: rest => (readNat? 10 rest).map fun n => (n : Int)
    | cs => (readNat? 10 cs).map fun n => (n : Int)
  n.filter Value.inRange

private def toInt (v : Value) : Outcome Value :=
  match v with
  | .undefined => .ok (.int 0)
  | .null => .ok (.int 0)
  | .bool b => .ok (.int (if b then 1 else 0))
  | .int n => .ok (.int n)
  | .float x => .ok (.int (wholePart x))
  | .string s _ =>
    match readInt? s, readAnyFloat? s with
    | some n, _ => .ok (.int n)
    | none, some x => .ok (.int (wholePart x))
    | none, none => invalid
  | _ => invalid

private def toFloat (v : Value) : Outcome Value :=
  match v with
  | .undefined => .ok (.float 0.0)
  | .null => .ok (.float 0.0)
  | .string s _ =>
    match readAnyFloat? s with
    | some x => .ok (.float x)
    | none => invalid
  | v =>
    match v.float? with
    | some x => .ok (.float x)
    | none => invalid

private def roundTo (places : Int) (x : Float) : Float :=
  let scale := if places < 0 then 1.0 / Float.ofScientific 1 false places.natAbs
    else Float.ofScientific 1 false places.natAbs
  (scale * x).round / scale

/-! ## Items -/

private def foldCase (v : Value) : Value :=
  match v with
  | .string s _ => .ofChars (s.toList.map Char.toLower)
  | v => v

private def compareItems (caseSensitive : Bool) (a b : Value) : Ordering :=
  if caseSensitive then a.compare b else (foldCase a).compare (foldCase b)

private def sortItems (caseSensitive : Bool) (key : Value → Value) (vs : List Value) : List Value :=
  vs.mergeSort fun a b => compareItems caseSensitive (key a) (key b) != .gt

private def best (better : Ordering) : List Value → Value
  | [] => .undefined
  | v :: rest => rest.foldl (fun acc v => if v.compare acc == better then v else acc) v

private def sum (vs : List Value) : Outcome Value :=
  vs.foldlM (fun acc v =>
    if v.isUndefined then .ok acc else if v.kind == .number then acc.add v else invalid) (.int 0)

private def inBatches (size : Nat) : Nat → List Value → List (List Value)
  | 0, _ => []
  | n + 1, vs =>
    if vs.isEmpty then [] else vs.take size :: inBatches size n (vs.drop size)

private def batch (size : Nat) (filler : Option Value) (vs : List Value) : Outcome Value :=
  if size = 0 then invalid
  else
    let pieces := inBatches size vs.length vs
    let fill (piece : List Value) := match filler with
      | some v => piece ++ List.replicate (size - piece.length) v
      | none => piece
    .ok (.ofList (pieces.map fun p => .ofList (fill p)))

/-- Cuts a list into pieces of almost one length; the longer ones come first. -/
private def pieces (count : Nat) (filler : Option Value) (vs : List Value) : Outcome Value :=
  if count = 0 then invalid
  else
    let size := vs.length / count
    let extra := vs.length % count
    let piece (i : Nat) : Value :=
      let start := i * size + min i extra
      let stop := (i + 1) * size + min (i + 1) extra
      let items := (vs.take stop).drop start
      match filler with
      | some v => .ofList (if i ≥ extra then items ++ [v] else items)
      | none => .ofList items
    .ok (.ofList ((List.range count).map piece))

private def unique (caseSensitive : Bool) (key : Value → Value) (vs : List Value) : List Value :=
  let mark (v : Value) : Value :=
    match key v with
    | .string s _ => if caseSensitive then .ofString s else .ofChars (lower s.toList)
    | v => v
  (vs.foldl (fun (seen, kept) v =>
    let m := mark v
    if seen.any fun s => s.compare m == .eq then (seen, kept) else (m :: seen, v :: kept))
    (([], []) : List Value × List Value)).2.reverse

private def groupItems (caseSensitive : Bool) (key : Value → Value) : List Value → List (Value × List Value)
  | [] => []
  | v :: rest =>
    match groupItems caseSensitive key rest with
    | (k, vs) :: groups =>
      if compareItems caseSensitive (key v) k == .eq then (k, v :: vs) :: groups
      else (key v, [v]) :: (k, vs) :: groups
    | [] => [(key v, [v])]

private def pairs? : Value → Option (List (Value × Value))
  | .map members => some members
  | _ => none

private def length? : Value → Option Nat
  | .undefined => none
  | .null => none
  | v => v.items?.map List.length

private def transpose : Nat → List (List Value) → List (List Value)
  | 0, _ => []
  | n + 1, rows =>
    match rows.mapM List.head? with
    | some heads => if rows.isEmpty then [] else heads :: transpose n (rows.map List.tail)
    | none => []

/-! ## JSON -/

private def escapeMarkup (c : Char) : List Char :=
  match c with
  | '<' => "\\u003c".toList
  | '>' => "\\u003e".toList
  | '&' => "\\u0026".toList
  | '\'' => "\\u0027".toList
  | c => [c]

/-- The blanks before a line of indented JSON, made wider. -/
private def widen (width : Nat) (line : List Char) : List Char :=
  let level := (line.takeWhile (· == ' ')).length / 2
  List.replicate (width * level) ' ' ++ line.dropWhile (· == ' ')

private def jsonText (indent : Option Nat) (v : Json) : List Char :=
  match indent with
  | none => v.compact.toList
  | some width => Text.join ['\n'] ((splitOn '\n' v.pretty.toList).map (widen width))

private def jsonIndent (v : Value) : Outcome (Option Nat) :=
  match v with
  | .bool b => .ok (if b then some 2 else none)
  | v => some <$> v.asNat

/-! ## Filters -/

private def caseSensitive (a : Arguments) : Outcome Bool := do
  return (← Value.optional Value.asBool (a.named? "case_sensitive")).getD false

private def reversed (a : Arguments) (vs : List Value) : Outcome (List Value) := do
  return if (← Value.optional Value.asBool (a.named? "reverse")).getD false then vs.reverse else vs

/-- The key by which items are compared: themselves, or what lies at the end of a path. -/
private def keyOf (a : Arguments) : Outcome (Value → Value) := do
  match ← Value.optional Value.asText (a.named? "attribute") with
  | some p => return fun v => v.pathOr .undefined p
  | none => return id

private def textFilter (f : List Char → List Char) (v : Value) (a : Arguments) : Outcome Value := do
  let _ ← a.between 0 0
  return .ofChars (f v.text.toList)

/-- Filters of texts. -/
private def textFilter? : String → Option (Value → Arguments → Outcome Value)
  | "upper" => some (textFilter upper)
  | "lower" => some (textFilter lower)
  | "title" => some (textFilter (titleFrom true))
  | "capitalize" => some (textFilter capitalize)
  | "replace" => some fun v a => do
    match ← a.between 2 2 with
    | [old, new] =>
      let cs := v.text.toList
      return .ofChars (replaceFrom old.text.toList new.text.toList (cs.length + 1) cs)
    | _ => throw .missingArgument
  | "trim" => some fun v a => do
    let cs := v.text.toList
    match (← a.between 0 1).filter (!·.isAbsent) with
    | [set] => return .ofChars (trimSet set.text.toList cs)
    | _ => return .ofChars (trim cs)
  | "split" => some fun v a => do
    let args ← a.between 0 2
    let cs := v.text.toList
    let sep := (args[0]?.filter (!·.isAbsent)).map (·.text.toList)
    let limit := (← Value.optional Value.asInt args[1]?).bind fun n => if n ≥ 0 then some n.toNat else none
    let parts := match sep with
      | none => splitBlank limit (cs.length + 1) cs
      | some [] => splitEmpty limit cs
      | some sep => splitText sep (cs.length + 1) limit [] cs
    return .ofList (parts.map Value.ofChars)
  | "lines" => some fun v a => do
    let _ ← a.between 0 0
    return .ofList ((lines v.text.toList).map Value.ofChars)
  | "indent" => some fun v a => do
    let args ← a.between 1 3
    let width ← (args[0]?.getD Value.undefined).asNat
    let first := (← Value.optional Value.asBool args[1]?).getD false
    let blank := (← Value.optional Value.asBool args[2]?).getD false
    return .ofChars (indentLines width first blank v.text.toList)
  | "format" => some fun v a => do
    return .ofString (← format v.text (← a.between 0 1000))
  | "safe" => some fun v a => do
    let _ ← a.between 0 0
    return .string v.text true
  | "string" => some fun v a => do
    let _ ← a.between 0 0
    match v with
    | .string s safe => return .string s safe
    | v => return .ofString v.text
  | "tojson" => some fun v a => do
    let args ← a.atMost 1
    a.onlyNamed ["indent"]
    let indent ← match (args[0]? <|> a.named.lookup "indent").filter (!·.isAbsent) with
      | some i => jsonIndent i
      | none => pure none
    return .string (String.ofList ((jsonText indent v.toJson).flatMap escapeMarkup)) true
  | "pprint" => some fun v a => do
    let _ ← a.between 0 0
    return .ofString (v.spread 0)
  | _ => none

/-- Filters of numbers and of single values. -/
private def scalarFilter? : String → Option (Value → Arguments → Outcome Value)
  | "default" | "d" => some fun v a => do
    let args ← a.between 0 2
    let lax := (← Value.optional Value.asBool args[1]?).getD false
    let other := (args[0]?.filter (!·.isAbsent)).getD (.ofString "")
    return if v.isUndefined || (lax && !v.isTrue) then other else v
  | "abs" => some fun v a => do
    let _ ← a.between 0 0
    match v with
    | .int n => return .int n.natAbs
    | .float x => return .float x.abs
    | _ => invalid
  | "int" => some fun v a => do
    let _ ← a.between 0 0
    toInt v
  | "float" => some fun v a => do
    let _ ← a.between 0 0
    toFloat v
  | "bool" => some fun v a => do
    let _ ← a.between 0 0
    return .bool v.isTrue
  | "round" => some fun v a => do
    let places := (← Value.optional Value.asInt (← a.between 0 1)[0]?).getD 0
    match v with
    | .int n => return .int n
    | .float x => return .float (roundTo places x)
    | _ => invalid
  | "attr" => some fun v a => do
    match ← a.between 1 1 with
    | [key] => v.item key
    | _ => throw .missingArgument
  | "length" | "count" => some fun v a => do
    let _ ← a.between 0 0
    match length? v with
    | some n => return .int n
    | none => invalid
  | _ => none

/-- Filters of lists and maps. -/
private def itemsFilter? : String → Option (Value → Arguments → Outcome Value)
  | "first" => some fun v a => do
    let _ ← a.between 0 0
    match v with
    | .string s _ => return (s.toList.head?.map fun c => .ofChars [c]).getD .undefined
    | v =>
      match v.sequence? with
      | some items => return items.head?.getD .undefined
      | none => invalid
  | "last" => some fun v a => do
    let _ ← a.between 0 0
    match v with
    | .string s _ => return (s.toList.getLast?.map fun c => .ofChars [c]).getD .undefined
    | .map _ => invalid
    | v =>
      match v.sequence? with
      | some items => return items.getLast?.getD .undefined
      | none => invalid
  | "min" => some fun v a => do
    let _ ← a.between 0 0
    return best .lt (← v.asItems)
  | "max" => some fun v a => do
    let _ ← a.between 0 0
    return best .gt (← v.asItems)
  | "sum" => some fun v a => do
    let _ ← a.between 0 0
    sum (← v.asItems)
  | "list" => some fun v a => do
    let _ ← a.between 0 0
    return .ofList (← v.asItems)
  | "reverse" => some fun v a => do
    let _ ← a.between 0 0
    match v with
    | .undefined => return .undefined
    | .null => return .null
    | .string s _ => return .ofChars s.toList.reverse
    | v => return .list (← v.asItems).reverse true
  | "join" => some fun v a => do
    let sep := ((← a.between 0 1)[0]?.filter (!·.isAbsent)).map (·.text)
    return .ofString ((sep.getD "").intercalate ((← v.asItems).map Value.text))
  | "sort" => some fun v a => do
    let _ ← a.atMost 0
    a.onlyNamed ["case_sensitive", "attribute", "reverse"]
    return .ofList (← reversed a (sortItems (← caseSensitive a) (← keyOf a) (← v.asItems)))
  | "unique" => some fun v a => do
    let _ ← a.atMost 0
    a.onlyNamed ["case_sensitive", "attribute"]
    return .ofList (unique (← caseSensitive a) (← keyOf a) (← v.asItems))
  | "dictsort" => some fun v a => do
    let _ ← a.atMost 0
    a.onlyNamed ["case_sensitive", "by", "reverse"]
    match pairs? v, ← Value.optional Value.asText (a.named? "by") with
    | some ms, column =>
      if column.all fun c => c == "key" || c == "value" then
        let rows := ms.map fun (k, v) => Value.ofList [k, v]
        let key (row : Value) : Value := (row.member? (.int (if column == some "value" then 1 else 0))).getD .undefined
        return .ofList (← reversed a (sortItems (← caseSensitive a) key rows))
      else invalid
    | none, _ => invalid
  | "items" => some fun v a => do
    let _ ← a.between 0 0
    match pairs? v with
    | some ms => return .ofList (ms.map fun (k, v) => .ofList [k, v])
    | none => invalid
  | "batch" => some fun v a => do
    let args ← a.between 1 2
    batch (← (args[0]?.getD Value.undefined).asNat) args[1]? (← v.asItems)
  | "slice" => some fun v a => do
    let args ← a.between 1 2
    pieces (← (args[0]?.getD Value.undefined).asNat) args[1]? (← v.asItems)
  | "groupby" => some fun v a => do
    let args ← a.atMost 1
    a.onlyNamed ["attribute", "default", "case_sensitive"]
    match args[0]? <|> a.named? "attribute" with
    | none => throw .missingArgument
    | some p =>
      let p ← p.asText
      let key (v : Value) : Value := v.pathOr ((a.named? "default").getD .undefined) p
      let sensitive ← caseSensitive a
      let groups := groupItems sensitive key (sortItems sensitive key (← v.asItems))
      return .ofList (groups.map fun (k, vs) => .group k vs)
  | "chain" => some fun v a => do
    let others ← (← a.between 0 1000).mapM Value.asItems
    return .list ((← v.asItems) ++ others.flatten) true
  | "zip" => some fun v a => do
    let rows := (← v.asItems) :: (← (← a.between 0 1000).mapM Value.asItems)
    let shortest := (rows.map List.length).min?.getD 0
    return .list ((transpose shortest rows).map fun row => .ofList row) true
  | _ => none

/-- The filters that depend on nothing but their arguments. -/
def plainFilter? (name : String) : Option (Value → Arguments → Outcome Value) :=
  textFilter? name <|> scalarFilter? name <|> itemsFilter? name

/-! ## Filters of filters -/

/-- The names of the filters that need the mode of escaping, or run other filters and tests. -/
def compoundFilters : List String :=
  ["escape", "e", "map", "select", "reject", "selectattr", "rejectattr"]

def isFilterName (name : String) : Bool := (plainFilter? name).isSome || compoundFilters.contains name

private def escape (mode : EscapeMode) (v : Value) : Value :=
  match v with
  | .string s true => .string s true
  | v => .string ((if mode = .plain then .html else mode : EscapeMode).print v) true

/-- Keeps the items that pass, or those that do not; without a test the items are asked whether
they are true. -/
private def selectItems (wanted : Bool) (field : Option String) (tests : List Value) (v : Value) :
    Outcome Value := do
  let passes (v : Value) : Outcome Bool := do
    let v ← match field with
      | some p => v.path p
      | none => pure v
    match tests with
    | [] => return v.isTrue
    | name :: args => runTest isFilterName name.text v { positional := args }
  match tests with
  | [] => pure ()
  | name :: _ =>
    let known := isPlainTestName name.text || name.text = "filter" || name.text = "test"
    if !known then throw .unknownTest
  return .ofList (← (← v.asItems).filterM fun v => do return (← passes v) == wanted)

private def mapField (field : Value) (fallback : Option Value) (v : Value) : Outcome Value := do
  let found (v : Value) : Outcome Value :=
    match field with
    | .string p _ => v.path p
    | key => v.item key
  let value (v : Value) : Outcome Value :=
    match found v, fallback with
    | .ok .undefined, some f => .ok f
    | .error _, some f => .ok f
    | result, _ => result
  return .ofList (← (← v.asItems).mapM value)

/-- Applies a filter. `map` may name itself, so that its nesting is bounded. -/
def applyFilter (mode : EscapeMode) : Nat → String → Value → Arguments → Outcome Value
  | 0, _, _, _ => invalid
  | n + 1, name, v, a =>
    match plainFilter? name with
    | some f => f v a
    | none => do
      match name with
      | "escape" | "e" =>
        let _ ← a.between 0 0
        return escape mode v
      | "map" =>
        match a.named? "attribute" with
        | some field =>
          a.onlyNamed ["attribute", "default"]
          let _ ← a.atMost 0
          mapField field (a.named.lookup "default") v
        | none =>
          match a.positional with
          | [] => invalid
          | name :: args =>
            let name ← name.asText
            if !isFilterName name then throw .unknownFilter
            return .ofList (← (← v.asItems).mapM fun v => applyFilter mode n name v ⟨args, a.named⟩)
      | "select" => selectItems true none (← a.between 0 1000) v
      | "reject" => selectItems false none (← a.between 0 1000) v
      | "selectattr" =>
        match ← a.between 1 1000 with
        | p :: tests => selectItems true (some p.text) tests v
        | [] => throw .missingArgument
      | "rejectattr" =>
        match ← a.between 1 1000 with
        | p :: tests => selectItems false (some p.text) tests v
        | [] => throw .missingArgument
      | _ => throw .unknownFilter

end TemplateBench.Jinja
