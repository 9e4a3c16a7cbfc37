import Arbor.Source.Grammar.Type

-- Rules for patterns.
namespace Arbor.Source.Rule

def greatestIndex : Nat := Nat.pow 2 32 - 1

def member : Rule Member := do
  if ← ahead seesName then return .named (← name)
  match ← literal with
  | .integer false value "" => if value ≤ greatestIndex then return .indexed value else refuse
  | _ => refuse

def seesAlternative (tokens : List Token) : Bool :=
  sees "|" tokens && !sees "||" tokens && !sees "|=" tokens

def alternatives (rules : Rules) : Rule Pattern := do
  let leading ← sign? "|"
  let first ← rules.pattern
  let others ← rounds [] fun done => do
    if ← ahead seesAlternative then
      sign "|"
      return .inl ((← rules.pattern) :: done)
    else return .inr done.reverse
  if leading || !others.isEmpty then return .or (first :: others) else return first

def macroArguments : Rule Delimiter := do
  sign "!"
  anyGroup

def seesMacroMark (tokens : List Token) : Bool := sees "!" tokens && !sees "!=" tokens

def seesNoBound (tokens : List Token) : Bool :=
  tokens.isEmpty || sees "|" tokens || sees "=" tokens || sees ":" tokens && !sees "::" tokens ||
    sees "," tokens || sees ";" tokens || seesWord "if" tokens

def constantPattern (rules : Rules) : Rule Unit := do
  word "const"
  discard (bodyWithAttributes rules)

def rangeBound (rules : Rules) : Rule (Option Pattern) := do
  let tokens ← get
  if seesNoBound tokens then return none
  else if seesLiteral tokens then return some (.literal (← literal))
  else if seesPathWord tokens || sees "::" tokens || sees "<" tokens then
    return some (.path (← qualifiedPath rules true).2)
  else
    constantPattern rules
    return some .other

def rangeDots : Rule Bool := do
  if ← sign? "..=" then return true
  if ← ahead (sees "...") then refuse
  sign ".."
  return false

-- Three dots are allowed behind a start.
def rangeRest (rules : Rules) : Rule Pattern := do
  let closed ← if ← sign? "..." then pure true else rangeDots
  let last ← rangeBound rules
  if closed && last.isNone then refuse
  return .range last.isSome

def fieldPattern (rules : Rules) : Rule Unit := do
  let boxed ← word? "box"
  let byRef ← word? "ref"
  let mutable ← word? "mut"
  if boxed || byRef || mutable then discard name
  else
    match ← member with
    | .named _ => if ← sign? ":" then discard (alternatives rules)
    | .indexed _ =>
      sign ":"
      discard (alternatives rules)

def fieldPatterns (rules : Rules) : Rule Unit :=
  rounds () fun _ => do
    if ← ahead List.isEmpty then return .inr ()
    discard (attributes rules)
    if ← ahead (sees "..") then
      sign ".."
      return .inr ()
    fieldPattern rules
    if ← ahead List.isEmpty then return .inr ()
    sign ","
    return .inl ()

def pathPattern (rules : Rules) : Rule Pattern := do
  let (qualified, found) ← qualifiedPath rules true
  let tokens ← get
  if !qualified && seesMacroMark tokens && found.isPlain then
    discard macroArguments
    return .other
  else if seesBrace tokens then
    inside .brace (fieldPatterns rules)
    return .struct found
  else if seesParen tokens then
    return .tupleStruct found (← inside .paren (commaList (alternatives rules)))
  else if sees ".." tokens then rangeRest rules
  else return .path found

def namePattern (rules : Rules) : Rule Pattern := do
  let byRef ← word? "ref"
  let mutable ← word? "mut"
  let found ← if ← ahead (seesWord "self") then anyWord else name
  if ← sign? "@" then discard rules.pattern
  return .name byRef mutable found

def parenthesizedPattern (rules : Rules) : Rule Pattern :=
  inside .paren do
    let elements ← rounds [] fun done => do
      if ← ahead List.isEmpty then return .inr (.tuple done.reverse)
      let found ← alternatives rules
      if ← ahead List.isEmpty then
        match done, found with
        | [], .rest => return .inr (.tuple [.rest])
        | [], _ => return .inr (.paren found)
        | _, _ => return .inr (.tuple (found :: done).reverse)
      sign ","
      return .inl (found :: done)
    return elements

-- In a slice a range needs both ends.
def elementPattern (rules : Rules) : Rule Pattern := do
  match ← alternatives rules with
  | .range false => refuse
  | found => return found

-- Whether a pattern begins with a path rather than with a name that it binds.
def seesPathPattern (tokens : List Token) : Bool :=
  let next := behind tokens
  seesName tokens && (sees "::" next || sees "!" next || seesBrace next || seesParen next ||
    sees ".." next) ||
  seesWord "self" tokens && sees "::" next ||
  sees "::" tokens || sees "<" tokens || seesWordOf ["Self", "super", "crate"] tokens

def pattern (rules : Rules) : Rule Pattern := do
  let tokens ← get
  if seesPathPattern tokens then pathPattern rules
  else if seesWord "_" tokens then
    word "_"
    return .wild
  else if seesWord "box" tokens then
    word "box"
    discard rules.pattern
    return .other
  else if sees "-" tokens || seesLiteral tokens || seesWord "const" tokens then
    match ← rangeBound rules with
    | none => refuse
    | some start => if ← ahead (sees "..") then rangeRest rules else return start
  else if seesName tokens || seesWordOf ["ref", "mut", "self"] tokens then namePattern rules
  else if sees "&" tokens then
    sign "&"
    let mutable ← word? "mut"
    return .reference mutable (← rules.pattern)
  else if seesParen tokens then parenthesizedPattern rules
  else if seesBracket tokens then
    return .slice (← inside .bracket (commaList (elementPattern rules)))
  else if sees ".." tokens then
    let closed ← rangeDots
    match ← rangeBound rules with
    | some _ => return .range false
    | none => if closed then refuse else return .rest
  else refuse

end Arbor.Source.Rule
