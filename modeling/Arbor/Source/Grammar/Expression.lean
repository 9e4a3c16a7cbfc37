import Arbor.Source.Grammar.Pattern
import Arbor.Text.Basic

-- Rules for expressions.
namespace Arbor.Source.Rule

def seesExpr (tokens : List Token) : Bool :=
  seesAnyWord tokens && !seesWord "as" tokens ||
  seesParen tokens || seesBracket tokens || seesBrace tokens || seesLiteral tokens ||
  sees "!" tokens && !sees "!=" tokens ||
  sees "-" tokens && !sees "-=" tokens && !sees "->" tokens ||
  sees "*" tokens && !sees "*=" tokens ||
  sees "|" tokens && !sees "|=" tokens ||
  sees "&" tokens && !sees "&=" tokens ||
  sees ".." tokens ||
  sees "<" tokens && !sees "<=" tokens && !sees "<<=" tokens ||
  sees "::" tokens || seesLifetime tokens || sees "#" tokens

def binaryOp? (tokens : List Token) : Option BinaryOp :=
  BinaryOp.bySpelling.find? fun op => sees op.text tokens

def seesAssign (tokens : List Token) : Bool := sees "=" tokens && !sees "=>" tokens

def nextPrecedence (tokens : List Token) : Precedence :=
  match binaryOp? tokens with
  | some op => op.precedence
  | none =>
    if seesAssign tokens then .assign
    else if sees ".." tokens then .range
    else if seesWord "as" tokens then .cast
    else .least

def seesDot (tokens : List Token) : Bool := sees "." tokens && !sees ".." tokens

-- Where the end of a range may be missing.
def seesRangeEnd (structs : Bool) (tokens : List Token) : Bool :=
  tokens.isEmpty || seesDot tokens || !structs && seesBrace tokens || seesWord "as" tokens ||
    [",", ";", "?", "=>", "=", "+", "/", "%", "^", ">", "<=", "!=", "-=", "*=", "&=", "|=",
      "<<="].any (sees · tokens)

def operand (rules : Rules) (structs : Bool) (precedence : Precedence) : Rule Expr := do
  let first ← rules.unary structs
  rounds first fun right => do
    let before ← get
    let next := nextPrecedence before
    if precedence < next || next = precedence && precedence = Precedence.assign then
      let right ← rules.operators structs next right
      if (← get).length = before.length then return .inr right else return .inl right
    else return .inr right

def rangeLast (rules : Rules) (structs closed : Bool) : Rule (Option Expr) := do
  if !closed && (← ahead (seesRangeEnd structs)) then return none
  else return some (← operand rules structs .range)

def operators (rules : Rules) (structs : Bool) (base : Precedence) (left : Expr) : Rule Expr :=
  rounds left fun left => do
    let tokens ← get
    if left.isRange then return .inr left
    match binaryOp? tokens with
    | some op =>
      if op.precedence < base then return .inr left
      if op.precedence = Precedence.compare && left.isComparison then refuse
      sign op.text
      return .inl (.binary op left (← operand rules structs op.precedence))
    | none =>
      if base ≤ Precedence.assign && seesAssign tokens then
        sign "="
        return .inl (.assign left (← operand rules structs .assign))
      else if base ≤ Precedence.range && sees ".." tokens then
        let closed ← rangeDots
        return .inl (.range closed (some left) (← rangeLast rules structs closed))
      else if base ≤ Precedence.cast && seesWord "as" tokens then
        word "as"
        let type ← rules.type false
        let next ← get
        if seesDot next || sees "?" next || seesBracket next || seesParen next then refuse
        return .inl (.cast left type)
      else return .inr left

-- Underscores do not count.
def indexOfDigits? (digits : List Char) : Option Nat :=
  if digits.head?.any Char.isDigit && digits.all (fun c => c.isDigit || c = '_') then
    let index := (digits.filter Char.isDigit).foldl (fun n c => 10 * n + (c.toNat - 48)) 0
    if index ≤ greatestIndex then some index else none
  else none

-- Indices may be spelled together as a decimal number. The answer tells whether a dot is left
-- behind them.
def decimalIndex? (base : Expr) (spelling : String) : Option (Expr × Bool) := do
  let text := spelling.toList
  let dotted := text.getLast? == some '.'
  let parts ← (Text.splitAt '.' (if dotted then text.dropLast else text)).mapM indexOfDigits?
  return (parts.foldl (fun base index => .field base (.indexed index)) base, dotted)

def afterDot (rules : Rules) (base : Expr) : Rule Expr := do
  if ← word? "await" then return .await base
  let found ← member
  match found with
  | .indexed _ => return .field base found
  | .named method =>
    let turbofish ← ahead (sees "::")
    if turbofish then discard (angledArguments rules)
    if turbofish || (← ahead seesParen) then
      return .methodCall base method (← inside .paren (commaList (rules.expr true)))
    else return .field base found

def trailers (rules : Rules) (expr : Expr) : Rule Expr :=
  rounds expr fun expr => do
    let tokens ← get
    if seesParen tokens then
      return .inl (.call expr (← inside .paren (commaList (rules.expr true))))
    else if seesDot tokens && !expr.isRange then
      sign "."
      match ← get with
      | .literal (.decimal ..) spelling :: rest =>
        match decimalIndex? expr spelling with
        | none => refuse
        | some (field, dotted) =>
          set rest
          if dotted then return .inl (← afterDot rules field) else return .inl field
      | _ => return .inl (← afterDot rules expr)
    else if seesBracket tokens then
      return .inl (.index expr (← inside .bracket (rules.expr true)))
    else if sees "?" tokens && !expr.isRange then
      sign "?"
      return .inl (.try expr)
    else return .inr expr

def block (rules : Rules) : Rule (List Stmt) := inside .brace rules.statements

def conditional (rules : Rules) : Rule Expr := do
  word "if"
  let condition ← rules.expr false
  let body ← block rules
  if ← word? "else" then
    if ← ahead (seesWord "if") then
      return .ifElse condition body (some (← rules.atom false))
    else return .ifElse condition body (some (.block (← block rules)))
  else return .ifElse condition body none

def whileLoop (rules : Rules) : Rule Expr := do
  word "while"
  let condition ← rules.expr false
  return .while condition (← bodyWithAttributes rules)

def forLoop (rules : Rules) : Rule Expr := do
  word "for"
  let pattern ← alternatives rules
  word "in"
  let source ← rules.expr false
  return .for pattern source (← bodyWithAttributes rules)

def endlessLoop (rules : Rules) : Rule Expr := do
  word "loop"
  return .loop (← bodyWithAttributes rules)

def labelled (rules : Rules) : Rule Expr := do
  discard lifetime
  sign ":"
  let tokens ← get
  if seesWord "while" tokens then whileLoop rules
  else if seesWord "for" tokens then forLoop rules
  else if seesWord "loop" tokens then endlessLoop rules
  else return .block (← bodyWithAttributes rules)

def tryBlock (rules : Rules) : Rule Expr := do
  word "try"
  return .tryBlock (← block rules)

def unsafeBlock (rules : Rules) : Rule Expr := do
  word "unsafe"
  return .unsafeBlock (← bodyWithAttributes rules)

def constBlock (rules : Rules) : Rule Expr := do
  word "const"
  return .constBlock (← bodyWithAttributes rules)

def seesLeadingBlock (tokens : List Token) : Bool :=
  seesWordOf ["if", "while", "loop", "match", "unsafe"] tokens ||
  seesWord "for" tokens && !seesGenerics (behind tokens) ||
  seesWordOf ["try", "const"] tokens && seesBrace (behind tokens) ||
  seesBrace tokens || seesLifetime tokens

-- An expression that ends with a block goes on only with a dot or a question mark.
def leading (rules : Rules) : Rule Expr := do
  discard (attributes rules)
  if ← ahead seesLeadingBlock then
    let expr ← rules.atom true
    if ← ahead fun tokens => seesDot tokens || sees "?" tokens then
      rules.operators true .least (← trailers rules expr)
    else return expr
  else rules.operators true .least (← rules.unary true)

def arm (rules : Rules) : Rule Arm := do
  discard (attributes rules)
  let pattern ← alternatives rules
  let guard ← if ← word? "if" then some <$> rules.expr true else pure none
  sign "=>"
  let body ← leading rules
  if !(← sign? ",") then
    if !body.isBlockLike && !(← ahead List.isEmpty) then refuse
  return .mk pattern guard body

def matchArms (rules : Rules) : Rule Expr := do
  word "match"
  let scrutinee ← rules.expr false
  let arms ← inside .brace do
    innerAttributes rules
    allOf (arm rules)
  return .match scrutinee arms

def fieldValue (rules : Rules) : Rule FieldValue := do
  discard (attributes rules)
  match ← member with
  | .named found =>
    if ← sign? ":" then return .mk (.named found) (← rules.expr true)
    else return .mk (.named found) (.path (.ofName found))
  | .indexed index =>
    sign ":"
    return .mk (.indexed index) (← rules.expr true)

-- Two dots end the fields, perhaps with a base behind them.
def fieldValues (rules : Rules) : Rule (List FieldValue × Option Expr) :=
  rounds [] fun done => do
    if ← ahead List.isEmpty then return .inr (done.reverse, none)
    if ← sign? ".." then
      if ← ahead List.isEmpty then return .inr (done.reverse, none)
      else return .inr (done.reverse, some (← rules.expr true))
    let found ← fieldValue rules
    if ← ahead List.isEmpty then return .inr ((found :: done).reverse, none)
    sign ","
    return .inl (found :: done)

def pathExpr (rules : Rules) (structs : Bool) : Rule Expr := do
  let (qualified, found) ← qualifiedPath rules true
  let tokens ← get
  if !qualified && seesMacroMark tokens && found.isPlain then
    return .macroCall found (← macroArguments)
  else if structs && seesBrace tokens then
    let (fields, base) ← inside .brace (fieldValues rules)
    return .struct found fields base
  else return .path found

def parenthesizedExpr (rules : Rules) : Rule Expr :=
  inside .paren do
    if ← ahead List.isEmpty then return .tuple []
    let first ← rules.expr true
    if ← ahead List.isEmpty then return .paren first
    sign ","
    return .tuple (first :: (← commaList (rules.expr true)))

def arrayExpr (rules : Rules) : Rule Expr :=
  inside .bracket do
    if ← ahead List.isEmpty then return .array []
    let first ← rules.expr true
    if ← sign? ";" then return .fill first (← rules.expr true)
    if ← ahead List.isEmpty then return .array [first]
    sign ","
    return .array (first :: (← commaList (rules.expr true)))

def closureParam (rules : Rules) : Rule Pattern := do
  discard (attributes rules)
  let pattern ← rules.pattern
  if ← sign? ":" then return .typed pattern (← rules.type true) else return pattern

def closure (rules : Rules) (structs : Bool) : Rule Expr := do
  discard (boundLifetimes? rules)
  for keyword in ["const", "static", "async", "move"] do
    discard (word? keyword)
  sign "|"
  let params ← separated (sees "|") "," (closureParam rules)
  sign "|"
  if ← sign? "->" then
    discard (rules.type true)
    return .closure params (.block (← block rules))
  else return .closure params (← rules.expr structs)

def seesClosure (tokens : List Token) : Bool :=
  let next := behind tokens
  sees "|" tokens || seesWord "move" tokens || seesWord "static" tokens ||
    seesWord "for" tokens && seesGenerics next ||
    seesWord "const" tokens && !seesBrace next ||
    seesWord "async" tokens && (sees "|" next || seesWord "move" next)

def jumpValue (rules : Rules) : Rule (Option Expr) := do
  if ← ahead seesExpr then some <$> rules.expr true else return none

def breakExpr (rules : Rules) (structs : Bool) : Rule Expr := do
  word "break"
  if (← lifetime?).isSome then
    if ← ahead (sees ":") then refuse
  if !structs && (← ahead seesBrace) then return .break none
  else return .break (← jumpValue rules)

def letCondition (rules : Rules) (structs : Bool) : Rule Expr := do
  word "let"
  let pattern ← alternatives rules
  sign "="
  let first ← rules.unary structs
  return .letCondition pattern (← rules.operators structs .compare first)

def atom (rules : Rules) (structs : Bool) : Rule Expr := do
  let tokens ← get
  let next := behind tokens
  if seesLiteral tokens then return .literal (← literal)
  else if seesWord "async" tokens &&
      (seesBrace next || seesWord "move" next && seesBrace (behind next)) then
    word "async"
    discard (word? "move")
    return .asyncBlock (← block rules)
  else if seesWord "try" tokens && seesBrace next then tryBlock rules
  else if seesClosure tokens then closure rules structs
  else if seesBuiltin tokens then
    builtin
    return .unnamed
  else if seesPathWord tokens || sees "::" tokens || sees "<" tokens ||
      seesWord "try" tokens && (sees "!" next || sees "::" next) then
    pathExpr rules structs
  else if seesParen tokens then parenthesizedExpr rules
  else if seesWord "break" tokens then breakExpr rules structs
  else if seesWord "continue" tokens then
    word "continue"
    discard lifetime?
    return .continue
  else if seesWord "return" tokens then
    word "return"
    return .return (← jumpValue rules)
  else if seesWord "become" tokens then
    word "become"
    discard (rules.expr true)
    return .unnamed
  else if seesBracket tokens then arrayExpr rules
  else if seesWord "let" tokens then letCondition rules structs
  else if seesWord "if" tokens then conditional rules
  else if seesWord "while" tokens then whileLoop rules
  else if seesWord "for" tokens then forLoop rules
  else if seesWord "loop" tokens then endlessLoop rules
  else if seesWord "match" tokens then matchArms rules
  else if seesWord "yield" tokens then
    word "yield"
    return .yield (← jumpValue rules)
  else if seesWord "unsafe" tokens then unsafeBlock rules
  else if seesWord "const" tokens then constBlock rules
  else if seesBrace tokens then return .block (← bodyWithAttributes rules)
  else if sees ".." tokens then
    let closed ← rangeDots
    return .range closed none (← rangeLast rules structs closed)
  else if seesWord "_" tokens then
    word "_"
    return .infer
  else if seesLifetime tokens then labelled rules
  else refuse

def unary (rules : Rules) (structs : Bool) : Rule Expr := do
  let attributed ← attributes rules
  let tokens ← get
  if sees "&" tokens then
    sign "&"
    let next ← get
    if seesWord "raw" next && seesWordOf ["mut", "const"] (behind next) then
      word "raw"
      discard anyWord
      return .rawReference (← rules.unary structs)
    let mutable ← word? "mut"
    return .reference mutable (← rules.unary structs)
  else if sees "*" tokens then
    sign "*"
    return .unary .deref (← rules.unary structs)
  else if sees "!" tokens then
    sign "!"
    return .unary .not (← rules.unary structs)
  else if sees "-" tokens then
    sign "-"
    return .unary .negate (← rules.unary structs)
  else
    let expr ← trailers rules (← rules.atom structs)
    if attributed && expr.isRange then refuse
    return expr

def expr (rules : Rules) (structs : Bool) : Rule Expr := do
  rules.operators structs .least (← rules.unary structs)

end Arbor.Source.Rule
