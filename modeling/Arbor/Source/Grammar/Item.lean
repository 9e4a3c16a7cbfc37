import Arbor.Source.Grammar.Statement

-- Rules for items and their parts.
namespace Arbor.Source.Rule

-- A path that begins with `self` is no receiver.
def seesReceiver (tokens : List Token) : Bool :=
  let skip (test : List Token → Bool) (tokens : List Token) :=
    if test tokens then behind tokens else tokens
  let target := if sees "&" tokens then skip seesLifetime (behind tokens) else tokens
  let target := skip (seesWord "mut") target
  seesWord "self" target && !sees "::" (behind target)

-- The type of `self` may be given unless it is a reference.
def receiver (rules : Rules) : Rule Param := do
  let reference ← sign? "&"
  if reference then discard lifetime?
  let mutable ← word? "mut"
  word "self"
  if !reference then
    if ← sign? ":" then discard (rules.type true)
  return .receiver reference mutable

-- Nothing is answered for a parameter that stands for any number of arguments.
def param (rules : Rules) : Rule (Option Param) := do
  if ← ahead seesReceiver then return some (← receiver rules)
  if ← ahead fun tokens => seesName tokens && sees "<" (behind tokens) then
    return some (.typed .wild (← rules.type true))
  let pattern ← rules.pattern
  sign ":"
  if ← sign? "..." then return none
  else return some (.typed pattern (← rules.type true))

-- Only the first may be `self`; what stands for any number of arguments comes last and is not kept.
def params (rules : Rules) : Rule (List Param) :=
  rounds [] fun done => do
    if ← ahead List.isEmpty then return .inr done.reverse
    discard (attributes rules)
    let found ← if ← sign? "..." then pure none else param rules
    match found with
    | none =>
      discard (sign? ",")
      return .inr done.reverse
    | some found =>
      if found.isReceiver && !done.isEmpty then refuse
      if ← ahead List.isEmpty then return .inr (found :: done).reverse
      sign ","
      return .inl (found :: done)

def signature (rules : Rules) (safe : Bool) : Rule Signature := do
  discard (word? "const")
  discard (word? "async")
  if !(← word? "unsafe") && safe then discard (word? "safe")
  convention
  word "fn"
  let found ← name
  discard (generics rules)
  let params ← inside .paren (params rules)
  let result ← resultType rules true
  discard (whereClause rules)
  return ⟨found, params, result⟩

def function (rules : Rules) (safe : Bool) : Rule (Signature × Option (List Stmt)) := do
  let found ← signature rules safe
  if ← sign? ";" then return (found, none)
  else return (found, some (← bodyWithAttributes rules))

structure Constant where
  name : String
  type : Ty
  value : Option Expr
  plain : Bool

def constant (rules : Rules) : Rule Constant := do
  word "const"
  let found ← nameOrUnderscore
  let generic ← generics rules
  sign ":"
  let type ← rules.type true
  let value ← if ← sign? "=" then some <$> rules.expr true else pure none
  let restricted ← whereClause rules
  sign ";"
  return ⟨found, type, value, !generic && !restricted⟩

inductive ClausePlace where
  | beforeType
  | afterType
  | either

structure Alias where
  name : String
  bounded : Bool
  type : Option Ty

def typeAlias (rules : Rules) (place : ClausePlace) : Rule Alias := do
  word "type"
  let found ← name
  discard (generics rules)
  let bounded ← sign? ":"
  if bounded then
    joined (fun tokens => seesWord "where" tokens || sees "=" tokens || sees ";" tokens)
      (discard (rules.bound false true))
  let early ← match place with
    | .afterType => pure false
    | _ => whereClause rules
  let type ← if ← sign? "=" then some <$> rules.type true else pure none
  match place with
  | .beforeType => pure ()
  | _ => if !early then discard (whereClause rules)
  sign ";"
  return ⟨found, bounded, type⟩

def namedField (rules : Rules) : Rule Field := do
  discard (attributes rules)
  discard visibility
  let found ← nameOrUnderscore
  sign ":"
  let tokens ← get
  if found == "_" && (seesWord "struct" tokens ||
      seesWord "union" tokens && seesBrace (behind tokens)) then
    discard anyWord
    discard (inside .brace rules.fields)
    return ⟨some found, .other⟩
  else return ⟨some found, ← rules.type true⟩

def placedField (rules : Rules) : Rule Field := do
  discard (attributes rules)
  discard visibility
  return ⟨none, ← rules.type true⟩

def fields (rules : Rules) : Rule (List Field) := commaList (namedField rules)

def bracedFields (rules : Rules) : Rule (List Field) := inside .brace (fields rules)

def parenthesizedFields (rules : Rules) : Rule (List Field) :=
  inside .paren (commaList (placedField rules))

def structItem (rules : Rules) : Rule Item := do
  word "struct"
  let found ← name
  discard (generics rules)
  let restricted ← whereClause rules
  if !restricted && (← ahead seesParen) then
    let fields ← parenthesizedFields rules
    discard (whereClause rules)
    sign ";"
    return .struct found fields
  else if ← ahead seesBrace then return .struct found (← bracedFields rules)
  else
    sign ";"
    return .struct found []

def variant (rules : Rules) : Rule Variant := do
  discard (attributes rules)
  discard visibility
  let found ← name
  let fields ←
    if ← ahead seesBrace then bracedFields rules
    else if ← ahead seesParen then parenthesizedFields rules
    else pure []
  let discriminant ← if ← sign? "=" then some <$> rules.expr true else pure none
  return .mk found fields discriminant

def enumItem (rules : Rules) : Rule Item := do
  word "enum"
  let found ← name
  discard (generics rules)
  discard (whereClause rules)
  return .enum found (← inside .brace (commaList (variant rules)))

def unionItem (rules : Rules) : Rule Item := do
  word "union"
  discard name
  discard (generics rules)
  discard (whereClause rules)
  discard (bracedFields rules)
  return .other

-- Nothing is answered for names of which some begin with `::`.
def use (rules : Rules) (rooted : Bool) : Rule (Option UseTree) := do
  let tokens ← get
  if seesName tokens || seesWordOf ["self", "super", "crate", "try"] tokens then
    let found ← anyWord
    if ← sign? "::" then return (← rules.use false).map (.path found)
    else if ← word? "as" then return some (.rename found (← nameOrUnderscore))
    else return some (.name found)
  else if ← sign? "*" then return some .glob
  else
    let items ← inside .brace <| commaList do
      let root ← if rooted then sign? "::" else pure false
      let item ← rules.use (rooted && !root)
      return if root then none else item
    return (items.mapM id).map .group

def useItem (rules : Rules) : Rule Item := do
  word "use"
  let root ← sign? "::"
  let tree ← rules.use (!root)
  sign ";"
  return (tree.map .use).getD .other

def externCrate : Rule Item := do
  word "extern"
  word "crate"
  discard (if ← ahead (seesWord "self") then anyWord else name)
  if ← word? "as" then discard nameOrUnderscore
  sign ";"
  return .other

def moduleItem (rules : Rules) : Rule Item := do
  discard (word? "unsafe")
  word "mod"
  let found ← if ← ahead (seesWord "try") then anyWord else name
  if ← sign? ";" then return .module found []
  else
    return .module found (← inside .brace do
      innerAttributes rules
      allOf (do discard (attributes rules); rules.item))

def seesMacroPath (tokens : List Token) : Bool :=
  seesName tokens || seesWordOf ["self", "super", "crate"] tokens || sees "::" tokens

-- Without braces a macro among items ends with a semicolon.
def macroItem (named : Bool) : Rule Path := do
  let found ← plainPath
  sign "!"
  if named then
    if ← ahead fun tokens => seesName tokens || seesWord "try" tokens then discard anyWord
  if (← anyGroup) != .brace then sign ";"
  return found

def macroDefinition : Rule Item := do
  word "macro"
  discard name
  if ← ahead seesParen then skipGroup .paren
  skipGroup .brace
  return .other

def foreignItem (rules : Rules) : Rule Unit := do
  discard (attributes rules)
  let visible ← visibility
  let tokens ← get
  if seesFunction true tokens then discard (function rules true)
  else if seesWord "static" tokens ||
      seesWordOf ["unsafe", "safe"] tokens && seesWord "static" (behind tokens) then
    if !seesWord "static" tokens then discard anyWord
    word "static"
    discard (word? "mut")
    discard name
    sign ":"
    discard (rules.type true)
    if ← sign? "=" then discard (rules.expr true)
    sign ";"
  else if seesWord "type" tokens then discard (typeAlias rules .either)
  else if !visible && seesMacroPath tokens then discard (macroItem false)
  else refuse

def foreignItems (rules : Rules) : Rule Item := do
  discard (word? "unsafe")
  word "extern"
  if ← ahead seesText then discard literal
  inside .brace do
    innerAttributes rules
    discard (allOf (foreignItem rules))
  return .other

def traitMember (rules : Rules) : Rule TraitMember := do
  discard (attributes rules)
  let visible ← visibility
  let default ← word? "default"
  let tokens ← get
  let found ←
    if seesFunction false tokens then
      let (signature, body) ← function rules false
      pure (.function signature body)
    else if seesWord "const" tokens then
      let found ← constant rules
      pure (if found.plain then .const found.name found.type found.value else .other)
    else if seesWord "type" tokens then
      let found ← typeAlias rules .afterType
      pure (.alias found.name found.type)
    else if !visible && !default && seesMacroPath tokens then
      discard (macroItem false)
      pure .other
    else refuse
  return if visible || default then .other else found

def traitRest (rules : Rules) (name : String) : Rule Item := do
  if ← sign? ":" then
    joined (fun tokens => seesWord "where" tokens || seesBrace tokens)
      (discard (rules.bound false true))
  discard (whereClause rules)
  return .trait name (← inside .brace do
    innerAttributes rules
    allOf (traitMember rules))

def traitItem (rules : Rules) : Rule Item := do
  let marked ← word? "unsafe"
  let marked := (← word? "auto") || marked
  word "trait"
  let found ← name
  discard (generics rules)
  if !marked && (← ahead (sees "=")) then
    sign "="
    joined (fun tokens => seesWord "where" tokens || sees ";" tokens)
      (discard (rules.bound false false))
    discard (whereClause rules)
    sign ";"
    return .other
  else traitRest rules found

def implMember (rules : Rules) : Rule ImplMember := do
  discard (attributes rules)
  let visible ← visibility
  let default ← if ← ahead fun tokens => seesWord "default" tokens && !sees "!" (behind tokens)
    then word? "default" else pure false
  let tokens ← get
  if seesFunction false tokens then
    match ← function rules false with
    | (signature, some body) => return .function signature body
    | (_, none) => return .other
  else if seesWord "const" tokens then
    let found ← constant rules
    match found.value with
    | some value => return if found.plain then .const found.name found.type value else .other
    | none => return .other
  else if seesWord "type" tokens then
    match ← typeAlias rules .afterType with
    | ⟨found, false, some type⟩ => return .alias found type
    | _ => return .other
  else if !visible && !default && seesMacroPath tokens then
    discard (macroItem false)
    return .other
  else refuse

def implItem (rules : Rules) (visible : Bool) : Rule Item := do
  discard (word? "default")
  discard (word? "unsafe")
  word "impl"
  if ← ahead seesGenerics then discard (generics rules)
  let constant ← ahead fun tokens =>
    seesWord "const" tokens || sees "?" tokens && seesWord "const" (behind tokens)
  if constant then
    discard (sign? "?")
    word "const"
  let negative ← ahead fun tokens => sees "!" tokens && !seesBrace (behind tokens)
  if negative then sign "!"
  let first ← rules.type true
  let (target, trait, named) ←
    if ← word? "for" then
      let target ← rules.type true
      match first with
      | .path false path => pure (target, some path, true)
      | _ => pure (target, none, false)
    else if negative then refuse
    else pure (first, none, true)
  discard (whereClause rules)
  let members ← inside .brace do
    innerAttributes rules
    allOf (implMember rules)
  return if visible || constant || !named then .other else .impl target trait members

def staticItem (rules : Rules) : Rule Item := do
  word "static"
  discard (word? "mut")
  let found ← name
  if ← sign? "=" then
    discard (rules.expr true)
    sign ";"
    return .other
  sign ":"
  let type ← rules.type true
  if ← sign? ";" then return .other
  sign "="
  let value ← rules.expr true
  sign ";"
  return .static found type value

def constItem (rules : Rules) : Rule Item := do
  let found ← constant rules
  match found.value with
  | some value => return if found.plain then .const found.name found.type value else .other
  | none => return .other

def aliasItem (rules : Rules) : Rule Item := do
  match ← typeAlias rules .beforeType with
  | ⟨found, false, some type⟩ => return .alias found type
  | _ => return .other

def functionItem (rules : Rules) : Rule Item := do
  match ← function rules false with
  | (signature, some body) => return .function signature body
  | (_, none) => return .other

def item (rules : Rules) : Rule Item := do
  let visible ← visibility
  let tokens ← get
  let next := behind tokens
  if seesFunction false tokens then functionItem rules
  else if seesWord "extern" tokens then
    if seesWord "crate" next then externCrate
    else if visible then refuse
    else foreignItems rules
  else if seesWord "use" tokens then useItem rules
  else if seesWord "static" tokens then staticItem rules
  else if seesWord "const" tokens then constItem rules
  else if seesWord "unsafe" tokens then
    if seesWord "trait" next || seesWord "auto" next && seesWord "trait" (behind next) then
      traitItem rules
    else if seesWord "impl" next then implItem rules visible
    else if seesWord "extern" next && !visible then foreignItems rules
    else if seesWord "mod" next then moduleItem rules
    else refuse
  else if seesWord "mod" tokens then moduleItem rules
  else if seesWord "type" tokens then aliasItem rules
  else if seesWord "struct" tokens then structItem rules
  else if seesWord "enum" tokens then enumItem rules
  else if seesWord "union" tokens && seesName next then unionItem rules
  else if seesWord "trait" tokens || seesWord "auto" tokens && seesWord "trait" next then
    traitItem rules
  else if seesWord "impl" tokens || seesWord "default" tokens && !sees "!" next then
    implItem rules visible
  else if seesWord "macro" tokens then macroDefinition
  else if !visible && seesMacroPath tokens then return .macroCall (← macroItem true)
  else refuse

end Arbor.Source.Rule
