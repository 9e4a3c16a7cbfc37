import Arbor.Source.Grammar.Basic

-- Rules for attributes, paths and their generic arguments.
namespace Arbor.Source.Rule

def seesPathWord (tokens : List Token) : Bool :=
  seesName tokens || seesWordOf ["super", "self", "Self", "crate"] tokens

def plainPath : Rule Path := do
  let rooted ← sign? "::"
  let names ← rounds [] fun done => do
    if !(← ahead seesPathWord) then refuse
    let found ← anyWord
    if ← sign? "::" then return .inl (found :: done) else return .inr (found :: done).reverse
  return .mk rooted (names.map (.mk · .none))

def attributeBody (rules : Rules) : Rule Unit := do
  if !(← word? "unsafe") then discard plainPath
  if ← ahead fun tokens => seesParen tokens || seesBracket tokens || seesBrace tokens then
    discard anyGroup
  else if ← ahead fun tokens => sees "=" tokens && !sees "==" tokens && !sees "=>" tokens then
    sign "="
    if ← ahead fun tokens => sees "#" tokens && seesBracket (behind tokens) then refuse
    discard (rules.expr true)

def attributes (rules : Rules) : Rule Bool := do
  let found ← ahead (sees "#")
  whileSees (sees "#") do
    sign "#"
    inside .bracket (attributeBody rules)
  return found

def innerAttributes (rules : Rules) : Rule Unit :=
  whileSees (fun tokens => sees "#" tokens && sees "!" (behind tokens)) do
    sign "#"
    sign "!"
    inside .bracket (attributeBody rules)

def bodyWithAttributes (rules : Rules) : Rule (List Stmt) :=
  inside .brace do
    innerAttributes rules
    rules.statements

def constantArgument (rules : Rules) : Rule Unit := do
  if ← ahead seesLiteral then discard literal
  else if ← ahead seesName then discard name
  else discard (bodyWithAttributes rules)

def isSimpleName : Ty → Bool
  | .path false (.mk false [.mk _ .none]) => true
  | .path false (.mk false [.mk _ (.angled _)]) => true
  | _ => false

def genericArgument (rules : Rules) : Rule Argument := do
  if ← ahead fun tokens => seesLifetime tokens && !sees "+" (behind tokens) then
    return .lifetime (← lifetime)
  if ← ahead fun tokens => seesLiteral tokens || seesBrace tokens then
    constantArgument rules
    return .other
  let type ← rules.type true
  if isSimpleName type then
    if ← sign? "=" then
      if ← ahead fun tokens => seesLiteral tokens || seesBrace tokens then constantArgument rules
      else discard (rules.type true)
      return .other
    if ← sign? ":" then
      joined (fun tokens => sees "," tokens || sees ">" tokens) (discard (rules.bound false true))
      return .other
  return .type type

def angledArguments (rules : Rules) : Rule (List Argument) := do
  discard (sign? "::")
  sign "<"
  let arguments ← separated (sees ">") "," (genericArgument rules)
  sign ">"
  return arguments

-- In an expression (`turbofish`) generic arguments follow a `::`.
def segment (rules : Rules) (turbofish : Bool) : Rule Segment := do
  if ← ahead (seesWordOf ["super", "self", "crate", "try"]) then return .mk (← anyWord) .none
  let found ← if ← ahead (seesWord "Self") then anyWord else name
  let tokens ← get
  if !turbofish && sees "<" tokens && !sees "<=" tokens && !sees "<<=" tokens ||
      sees "::" tokens && sees "<" (behind (behind tokens)) then
    return .mk found (.angled (← angledArguments rules))
  else return .mk found .none

-- Segments are read on as long as none stands before a parenthesis.
def moreSegments (rules : Rules) (turbofish : Bool) (path : Path) : Rule Path :=
  rounds path fun path => do
    if ← ahead fun tokens => sees "::" tokens && !seesParen (behind (behind tokens)) then
      sign "::"
      let found ← segment rules turbofish
      return .inl (.mk path.rooted (path.segments ++ [found]))
    else return .inr path

def path (rules : Rules) (turbofish : Bool) : Rule Path := do
  let rooted ← sign? "::"
  let first ← segment rules turbofish
  moreSegments rules turbofish (.mk rooted [first])

-- The answer tells whether the path begins with a type in angle brackets.
def qualifiedPath (rules : Rules) (turbofish : Bool) : Rule (Bool × Path) := do
  if ← ahead (sees "<") then
    sign "<"
    discard (rules.type true)
    let trait ← if ← word? "as" then some <$> path rules false else pure none
    sign ">"
    sign "::"
    let segments ← rounds [] fun done => do
      let found ← segment rules turbofish
      if ← sign? "::" then return .inl (found :: done) else return .inr (found :: done).reverse
    match trait with
    | some (.mk rooted before) => return (true, .mk rooted (before ++ segments))
    | none => return (true, .mk true segments)
  else return (false, ← path rules turbofish)

def seesBuiltin (tokens : List Token) : Bool :=
  seesWord "builtin" tokens && sees "#" (behind tokens)

def builtin : Rule Unit := do
  word "builtin"
  sign "#"
  discard name
  skipGroup .paren

def visibility : Rule Bool := do
  if !(← word? "pub") then return false
  match ← get with
  | .group .paren [.word place] :: rest =>
    if ["crate", "self", "super"].contains place then set rest
  | .group .paren (.word "in" :: inner) :: rest =>
    match plainPath inner with
    | some (_, []) => set rest
    | _ => refuse
  | _ => pure ()
  return true

end Arbor.Source.Rule
