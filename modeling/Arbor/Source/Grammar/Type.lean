import Arbor.Source.Grammar.Path

-- Rules for bounds, generic parameters, where clauses and types.
namespace Arbor.Source.Rule

def lifetimeBounds (stop : List Token → Bool) : Rule Unit :=
  joined stop (discard lifetime)

def genericParam (rules : Rules) : Rule Unit := do
  if ← ahead seesLifetime then
    discard lifetime
    if ← sign? ":" then
      lifetimeBounds fun tokens => tokens.isEmpty || sees "," tokens || sees ">" tokens
  else if ← ahead seesName then
    discard name
    if ← sign? ":" then
      joined (fun tokens => tokens.isEmpty || sees "," tokens || sees ">" tokens || sees "=" tokens)
        (discard (rules.bound false true))
    if ← sign? "=" then discard (rules.type true)
  else
    word "const"
    discard name
    sign ":"
    discard (rules.type true)
    if ← sign? "=" then constantArgument rules

def boundLifetimes (rules : Rules) : Rule Unit := do
  word "for"
  sign "<"
  discard (separated (sees ">") "," (do discard (attributes rules); genericParam rules))
  sign ">"

def boundLifetimes? (rules : Rules) : Rule Bool := do
  if ← ahead (seesWord "for") then boundLifetimes rules; return true else return false

def generics (rules : Rules) : Rule Bool := do
  if !(← sign? "<") then return false
  discard (separated (sees ">") "," do
    discard (attributes rules)
    if ← ahead (seesWord "_") then discard anyWord else genericParam rules)
  sign ">"
  return true

-- Angle brackets may also hold a type at the start of a path.
def seesGenerics (tokens : List Token) : Bool :=
  let second := behind tokens
  let third := behind second
  sees "<" tokens &&
    (sees ">" second || sees "#" second || seesWord "const" second ||
      (seesLifetime second || seesName second) &&
        (sees ">" third || sees "," third || sees ":" third && !sees "::" third || sees "=" third))

def seesClauseEnd (tokens : List Token) : Bool :=
  tokens.isEmpty || seesBrace tokens || sees "," tokens || sees ";" tokens ||
    sees ":" tokens && !sees "::" tokens || sees "=" tokens

def condition (rules : Rules) : Rule Unit := do
  if ← ahead fun tokens => seesLifetime tokens && sees ":" (behind tokens) then
    discard lifetime
    sign ":"
    lifetimeBounds fun tokens => seesClauseEnd tokens || sees ":" tokens
  else
    discard (boundLifetimes? rules)
    discard (rules.type true)
    sign ":"
    joined seesClauseEnd (discard (rules.bound false true))

-- A where clause may not begin with what could be generic parameters of its own.
def whereClause (rules : Rules) : Rule Bool := do
  if !(← word? "where") then return false
  if ← ahead seesGenerics then refuse
  rounds () fun _ => do
    if ← ahead seesClauseEnd then return .inr ()
    condition rules
    if ← sign? "," then return .inl () else return .inr ()
  return true

def resultType (rules : Rules) (plus : Bool) : Rule (Option Ty) := do
  if ← sign? "->" then some <$> rules.type plus else return none

def parenthesizedArguments (rules : Rules) : Rule Unit := do
  discard (inside .paren (commaList (rules.type true)))
  discard (resultType rules false)

def seesParenthesized (tokens : List Token) : Bool :=
  seesParen tokens || sees "::" tokens && seesParen (behind (behind tokens))

def endsBare (path : Path) : Bool := path.segments.getLast?.any Segment.isBare

def captured : Rule Unit := do
  word "use"
  sign "<"
  discard (separated (sees ">") "," do
    if ← ahead seesLifetime then discard lifetime
    else if ← ahead fun tokens => seesName tokens || seesWord "Self" tokens then discard anyWord
    else refuse)
  sign ">"

def traitBound (rules : Rules) (constant : Bool) : Rule Unit := do
  let binder ← boundLifetimes? rules
  if ← ahead seesBracket then
    inside .bracket (word "const")
    if !constant then refuse
  else if ← word? "const" then
    if !constant then refuse
  if ← sign? "?" then
    if binder then refuse
  let found ← path rules false
  if endsBare found && (← ahead seesParenthesized) then
    discard (sign? "::")
    parenthesizedArguments rules

def bound (rules : Rules) (captures constant : Bool) : Rule Bool := do
  if ← ahead seesLifetime then
    discard lifetime
    return false
  if ← ahead (seesWord "use") then
    captured
    if captures then return false else refuse
  if ← ahead seesParen then inside .paren (traitBound rules constant)
  else traitBound rules constant
  return true

def seesBound (constant : Bool) (tokens : List Token) : Bool :=
  seesAnyWord tokens || sees "::" tokens || sees "?" tokens || seesLifetime tokens ||
    seesParen tokens || constant && (seesBracket tokens || seesWord "const" tokens)

-- At least one of the bounds has to name a trait. The answer tells whether there is but one,
-- without a plus sign behind it.
def traitBounds (rules : Rules) (plus captures constant : Bool) : Rule Bool := do
  let (traits, lone) ← rounds (false, true) fun (traits, first) => do
    let traits := (← rules.bound captures constant) || traits
    if !(plus && (← ahead (sees "+"))) then return .inr (traits, first)
    sign "+"
    if ← ahead (seesBound constant) then return .inl (traits, false)
    else return .inr (traits, false)
  if traits then return lone else refuse

def convention : Rule Unit := do
  if ← word? "extern" then
    if ← ahead seesText then discard literal

def seesMutSelf (tokens : List Token) : Bool :=
  seesWord "mut" tokens && seesWord "self" (behind tokens)

-- Only the first parameter may be `self`: by itself, as a name, or behind a name in place of a
-- type.
def pointerParam (rules : Rules) (first : Bool) : Rule Unit := do
  discard (attributes rules)
  let mutSelf ← ahead fun tokens => first && seesMutSelf tokens
  if mutSelf then word "mut"
  let tokens ← get
  let nameAhead := seesName tokens || seesWord "_" tokens
  let named := (nameAhead || first && seesWord "self" tokens) &&
    sees ":" (behind tokens) && !sees "::" (behind tokens)
  if named then
    discard anyWord
    sign ":"
  if first && nameAhead && (← ahead seesMutSelf) then
    word "mut"
    word "self"
  else if mutSelf && !named then word "self"
  else discard (rules.type true)

def functionPointer (rules : Rules) : Rule Unit := do
  discard (word? "unsafe")
  convention
  word "fn"
  inside .paren do
    rounds true fun first => do
      if ← ahead List.isEmpty then return .inr ()
      discard (attributes rules)
      if ← ahead fun tokens => sees "..." tokens ||
          (seesName tokens || seesWord "_" tokens) && sees ":" (behind tokens) &&
            sees "..." (behind (behind tokens)) then
        if ← ahead seesAnyWord then
          discard anyWord
          sign ":"
        sign "..."
        discard (sign? ",")
        return .inr ()
      pointerParam rules first
      if ← ahead List.isEmpty then return .inr ()
      sign ","
      return .inl false
  discard (resultType rules false)

def furtherBounds (rules : Rules) : Rule Unit :=
  rounds () fun _ => do
    if ← sign? "+" then
      discard (rules.bound false false)
      return .inl ()
    else return .inr ()

def isBoundType : Ty → Bool
  | .path false _ => true
  | .traitObject true => true
  | _ => false

inductive Parenthesized where
  | tuple (elements : List Ty)
  | single (type : Ty)
  | maybeBound

def parenthesizedType (rules : Rules) (plus : Bool) : Rule Ty := do
  let found : Parenthesized ← inside .paren do
    if ← ahead List.isEmpty then return .tuple []
    if ← ahead seesLifetime then
      return .single (.traitObject (← traitBounds rules true false false))
    if ← ahead (sees "?") then
      traitBound rules false
      return .maybeBound
    let first ← rules.type true
    if ← ahead (sees ",") then
      sign ","
      let others ← commaList (rules.type true)
      return .tuple (first :: others)
    return .single first
  match found with
  | .tuple elements => return .tuple elements
  | .maybeBound =>
    furtherBounds rules
    return .traitObject false
  | .single type =>
    if plus && (← ahead (sees "+")) && isBoundType type then
      furtherBounds rules
      return .traitObject false
    else return .paren type

def pathOrBounds (rules : Rules) (plus binder : Bool) : Rule Ty := do
  let (qualified, found) ← qualifiedPath rules false
  if qualified then return .path true found
  if (← ahead fun tokens => sees "!" tokens && !sees "!=" tokens) && found.isPlain then
    sign "!"
    discard anyGroup
    return .other
  if binder || plus && (← ahead (sees "+")) then
    if !plus then return .traitObject true
    let lone ← rounds true fun lone => do
      if ← sign? "+" then
        if ← ahead (seesBound false) then
          discard (rules.bound false false)
          return .inl false
        else return .inr false
      else return .inr lone
    return .traitObject lone
  return .path false found

def type (rules : Rules) (plus : Bool) : Rule Ty := do
  let binder ← boundLifetimes? rules
  if binder then
    if !(← ahead fun tokens => seesPathWord tokens || seesWordOf ["fn", "unsafe", "extern"] tokens) then
      refuse
  let tokens ← get
  if seesParen tokens then parenthesizedType rules plus
  else if seesWordOf ["fn", "unsafe", "extern"] tokens then
    functionPointer rules
    return .other
  else if seesBuiltin tokens then
    builtin
    return .other
  else if seesPathWord tokens || sees "::" tokens || sees "<" tokens then
    pathOrBounds rules plus binder
  else if seesWord "dyn" tokens then
    word "dyn"
    let starred ← sign? "*"
    discard (traitBounds rules plus false false)
    return if starred then .other else .traitObject false
  else if seesBracket tokens then
    inside .bracket do
      let element ← rules.type true
      if ← sign? ";" then
        discard (rules.expr true)
        return .array element
      else return .slice element
  else if sees "*" tokens then
    sign "*"
    let mutable ← word? "mut"
    if !mutable then word "const"
    return .pointer mutable (← rules.type false)
  else if sees "&" tokens then
    sign "&"
    let lifetime ← lifetime?
    let mutable ← word? "mut"
    return .reference lifetime mutable (← rules.type false)
  else if sees "!" tokens then
    sign "!"
    return .never
  else if seesWord "impl" tokens then
    word "impl"
    discard (traitBounds rules plus true true)
    return .implTrait
  else if seesWord "_" tokens then
    word "_"
    return .infer
  else if seesLifetime tokens then
    return .traitObject (← traitBounds rules true false false)
  else refuse

end Arbor.Source.Rule
