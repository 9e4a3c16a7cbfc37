import Arbor.Source.Grammar.Expression

-- Rules for statements.
namespace Arbor.Source.Rule

-- `safe` says whether the function may be marked safe.
def seesFunction (safe : Bool) (tokens : List Token) : Bool :=
  let skip (words : List String) (tokens : List Token) :=
    if seesWordOf words tokens then tokens.drop 1 else tokens
  let tokens := skip ["const"] tokens
  let tokens := skip ["async"] tokens
  let tokens := skip (if safe then ["unsafe", "safe"] else ["unsafe"]) tokens
  match tokens with
  | .word "extern" :: rest => seesWord "fn" (if seesText rest then rest.drop 1 else rest)
  | _ => seesWord "fn" tokens

def seesItem (tokens : List Token) : Bool :=
  let next := behind tokens
  let functionStart := seesWordOf ["unsafe", "extern", "fn"]
  seesWordOf ["pub", "extern", "use", "fn", "mod", "type", "struct", "enum", "trait", "impl",
    "macro"] tokens ||
  seesWord "crate" tokens && !sees "::" next ||
  seesWord "static" tokens && (seesWord "mut" next || seesName next) ||
  seesWord "const" tokens && !(seesBrace next || seesWord "static" next ||
    seesWord "async" next && !functionStart (behind next) || seesWord "move" next ||
    sees "|" next) ||
  seesWord "unsafe" tokens && !seesBrace next ||
  seesWord "async" tokens && functionStart next ||
  seesWord "union" tokens && seesName next ||
  seesWord "auto" tokens && seesWord "trait" next ||
  seesWord "default" tokens && seesWordOf ["unsafe", "impl"] next

def endsWithBrace (before after : List Token) : Bool :=
  seesBrace (before.drop (before.length - after.length - 1))

def binding (rules : Rules) : Rule Stmt := do
  word "let"
  let pattern ← rules.pattern
  let pattern ← if ← sign? ":" then pure (.typed pattern (← rules.type true)) else pure pattern
  if ← sign? "=" then
    let before ← get
    let value ← rules.expr true
    let after ← get
    if !endsWithBrace before after && seesWord "else" after then
      word "else"
      let otherwise ← block rules
      sign ";"
      return .bind pattern (some value) (some (.block otherwise))
    else
      sign ";"
      return .bind pattern (some value) none
  else
    sign ";"
    return .bind pattern none none

inductive MacroStart where
  | item
  | statement (path : Path) (arguments : List Token)

-- Tells a macro that is an item or a statement of its own from one that is part of an expression.
def macroStart? (tokens : List Token) : Option MacroStart :=
  match plainPath tokens with
  | some (path, rest) =>
    let next := behind rest
    if !sees "!" rest then none
    else if seesName next || seesWord "try" next then some .item
    else if seesBrace next && !(seesDot (behind next) || sees "?" (behind next)) then
      some (.statement path rest)
    else none
  | none => none

-- The answer tells whether another statement may follow.
def statement (rules : Rules) : Rule (Stmt × Bool) := do
  discard (attributes rules)
  let tokens ← get
  match macroStart? tokens with
  | some (.statement path rest) =>
    set rest
    discard macroArguments
    discard (sign? ";")
    return (.macroCall path, true)
  | start =>
    if seesWord "let" tokens then return (← binding rules, true)
    else if start.isSome || seesItem tokens then return (.item (← rules.item), true)
    else
      let expr ← leading rules
      let ended ← sign? ";"
      return (.expr expr, ended || expr.isBlockLike || expr.isBraceMacro)

def statements (rules : Rules) : Rule (List Stmt) :=
  rounds [] fun done => do
    if ← sign? ";" then return .inl (.expr .unnamed :: done)
    if ← ahead List.isEmpty then return .inr done.reverse
    let (found, complete) ← statement rules
    if !complete && !(← ahead List.isEmpty) then refuse
    return .inl (found :: done)

end Arbor.Source.Rule
