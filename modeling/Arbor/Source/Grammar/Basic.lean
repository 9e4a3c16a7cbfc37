import Arbor.Source.Syntax.Basic

-- Rules of the grammar. A rule reads what it can off the front of the tokens and answers what it
-- has read, or refuses. There are no causes to tell: a file is accepted or it is not.
namespace Arbor.Source

abbrev Rule := StateT (List Token) Option

def beginsWith : List Char → List Token → Bool
  | [], _ => true
  | [c], .sign d _ :: _ => c = d
  | c :: more, .sign d joint :: rest => c = d && joint && beginsWith more rest
  | _, _ => false

-- What is spelled out may be the beginning of a longer sign.
def sees (sign : String) (tokens : List Token) : Bool := beginsWith sign.toList tokens

def seesWord (word : String) : List Token → Bool
  | .word text :: _ => text == word
  | _ => false

def seesWordOf (words : List String) : List Token → Bool
  | .word text :: _ => words.contains text
  | _ => false

def seesAnyWord : List Token → Bool
  | .word _ :: _ => true
  | _ => false

def reserved : List String :=
  ["_", "abstract", "as", "async", "await", "become", "box", "break", "const", "continue", "crate",
   "do", "dyn", "else", "enum", "extern", "false", "final", "fn", "for", "if", "impl", "in", "let",
   "loop", "macro", "match", "mod", "move", "mut", "override", "priv", "pub", "ref", "return",
   "Self", "self", "static", "struct", "super", "trait", "true", "try", "type", "typeof", "unsafe",
   "unsized", "use", "virtual", "where", "while", "yield"]

def seesName : List Token → Bool
  | .word text :: _ => !reserved.contains text
  | _ => false

def seesGroup (delimiter : Delimiter) : List Token → Bool
  | .group found _ :: _ => found == delimiter
  | _ => false

def seesParen : List Token → Bool := seesGroup .paren
def seesBracket : List Token → Bool := seesGroup .bracket
def seesBrace : List Token → Bool := seesGroup .brace

def seesLifetime : List Token → Bool
  | .sign '\'' true :: .word _ :: _ => true
  | _ => false

def literalAhead? : List Token → Option (Literal × List Token)
  | .literal value _ :: rest => some (value, rest)
  | .word "true" :: rest => some (.boolean true, rest)
  | .word "false" :: rest => some (.boolean false, rest)
  | .sign '-' _ :: .literal value _ :: rest => value.negate?.map (·, rest)
  | _ => none

def seesLiteral (tokens : List Token) : Bool := (literalAhead? tokens).isSome

def seesText : List Token → Bool
  | .literal (.text _) _ :: _ => true
  | _ => false

-- A lifetime counts as one token.
def behind : List Token → List Token
  | .sign '\'' true :: .word _ :: rest => rest
  | _ :: rest => rest
  | [] => []

namespace Rule

def refuse {α : Type} : Rule α := fun _ => none

def ahead (test : List Token → Bool) : Rule Bool := return test (← get)

def sign (text : String) : Rule Unit := do
  let tokens ← get
  if sees text tokens then set (tokens.drop text.length) else refuse

def sign? (text : String) : Rule Bool := do
  if ← ahead (sees text) then sign text; return true else return false

def anyWord : Rule String := do
  match ← get with
  | .word text :: rest => set rest; return text
  | _ => refuse

def word (text : String) : Rule Unit := do
  if ← ahead (seesWord text) then discard anyWord else refuse

def word? (text : String) : Rule Bool := do
  if ← ahead (seesWord text) then word text; return true else return false

def name : Rule String := do
  if ← ahead seesName then anyWord else refuse

def nameOrUnderscore : Rule String := do
  if ← ahead (fun tokens => seesName tokens || seesWord "_" tokens) then anyWord else refuse

def lifetime : Rule String := do
  match ← get with
  | .sign '\'' true :: .word text :: rest => set rest; return "'" ++ text
  | _ => refuse

def lifetime? : Rule (Option String) := do
  if ← ahead seesLifetime then some <$> lifetime else return none

def literal : Rule Literal := do
  match literalAhead? (← get) with
  | some (value, rest) => set rest; return value
  | none => refuse

def anyGroup : Rule Delimiter := do
  match ← get with
  | .group delimiter _ :: rest => set rest; return delimiter
  | _ => refuse

-- The rule must read all that stands between the brackets.
def inside {α : Type} (delimiter : Delimiter) (rule : Rule α) : Rule α := do
  match ← get with
  | .group found tokens :: rest =>
    if found = delimiter then
      match rule tokens with
      | some (value, []) => set rest; return value
      | _ => refuse
    else refuse
  | _ => refuse

def skipGroup (delimiter : Delimiter) : Rule Unit := do
  if ← ahead (seesGroup delimiter) then discard anyGroup else refuse

def repeatFrom {σ α : Type} (step : σ → Rule (σ ⊕ α)) : List Token → σ → Rule α
  | [], state => do
    match ← step state with
    | .inl _ => refuse
    | .inr answer => return answer
  | _ :: fuel, state => do
    match ← step state with
    | .inl next => repeatFrom step fuel next
    | .inr answer => return answer

-- A step that goes on reads a token, so there are no more rounds than tokens.
def rounds {σ α : Type} (state : σ) (step : σ → Rule (σ ⊕ α)) : Rule α := do
  repeatFrom step (← get) state

def separated {α : Type} (stop : List Token → Bool) (between : String) (element : Rule α) :
    Rule (List α) :=
  rounds [] fun done => do
    if ← ahead stop then return .inr done.reverse
    let found ← element
    if ← ahead stop then return .inr (found :: done).reverse
    sign between
    return .inl (found :: done)

def commaList {α : Type} (element : Rule α) : Rule (List α) :=
  separated List.isEmpty "," element

def allOf {α : Type} (element : Rule α) : Rule (List α) :=
  rounds [] fun done => do
    if ← ahead List.isEmpty then return .inr done.reverse
    return .inl ((← element) :: done)

def joined (stop : List Token → Bool) (bound : Rule Unit) : Rule Unit :=
  rounds () fun _ => do
    if ← ahead stop then return .inr ()
    bound
    if ← sign? "+" then return .inl () else return .inr ()

def whileSees (test : List Token → Bool) (element : Rule Unit) : Rule Unit :=
  rounds () fun _ => do
    if ← ahead test then element; return .inl () else return .inr ()

end Rule

-- A rule is given the rules of one level less and so can read nested text; the levels are counted
-- off the tokens.
structure Rules where
  -- `plus` says whether it may be a sum of bounds.
  type : (plus : Bool) → Rule Ty
  -- The arguments say whether it may list captured parameters, and whether it may be constant. The
  -- answer tells whether it names a trait.
  bound : (captures constant : Bool) → Rule Bool
  pattern : Rule Pattern
  -- `structs` says whether a path before a brace is a struct expression.
  expr : (structs : Bool) → Rule Expr
  unary : (structs : Bool) → Rule Expr
  atom : (structs : Bool) → Rule Expr
  -- What follows the left operand of operators that bind at least so tightly.
  operators : (structs : Bool) → Precedence → Expr → Rule Expr
  statements : Rule (List Stmt)
  fields : Rule (List Field)
  item : Rule Item
  -- `rooted` says whether names may begin with `::`. Nothing is answered for names of which some
  -- do.
  use : (rooted : Bool) → Rule (Option UseTree)

def Rules.empty : Rules where
  type _ := Rule.refuse
  bound _ _ := Rule.refuse
  pattern := Rule.refuse
  expr _ := Rule.refuse
  unary _ := Rule.refuse
  atom _ := Rule.refuse
  operators _ _ _ := Rule.refuse
  statements := Rule.refuse
  fields := Rule.refuse
  item := Rule.refuse
  use _ := Rule.refuse

end Arbor.Source
