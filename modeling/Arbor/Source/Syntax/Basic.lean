import Arbor.Source.Syntax.Operator
import Arbor.Source.Syntax.Pattern
import Arbor.Source.Syntax.Use
import Arbor.Source.Token

-- Expressions, statements and items of source code. Attributes, visibilities, generic parameters,
-- labels and the insides of macros are read but not kept.
namespace Arbor.Source

inductive Param where
  | receiver (reference mutable : Bool)
  | typed (pattern : Pattern) (type : Ty)

def Param.isReceiver : Param → Bool
  | .receiver .. => true
  | .typed .. => false

structure Signature where
  name : String
  params : List Param
  result : Option Ty

-- A field of a tuple has no name.
structure Field where
  name : Option String
  type : Ty

inductive Member where
  | named (name : String)
  | indexed (index : Nat)

def Member.shown : Member → String
  | .named name => name
  | .indexed index => index.repr

mutual

inductive Expr where
  | literal (value : Literal)
  | path (path : Path)
  | binary (op : BinaryOp) (left right : Expr)
  | unary (op : UnaryOp) (operand : Expr)
  | call (callee : Expr) (arguments : List Expr)
  | methodCall (receiver : Expr) (method : String) (arguments : List Expr)
  | field (base : Expr) (member : Member)
  | index (base index : Expr)
  | ifElse (condition : Expr) (body : List Stmt) (otherwise : Option Expr)
  | while (condition : Expr) (body : List Stmt)
  | for (pattern : Pattern) (source : Expr) (body : List Stmt)
  | loop (body : List Stmt)
  | block (body : List Stmt)
  | unsafeBlock (body : List Stmt)
  | return (value : Option Expr)
  | break (value : Option Expr)
  | continue
  | assign (target value : Expr)
  | paren (inner : Expr)
  | reference (mutable : Bool) (operand : Expr)
  | match (scrutinee : Expr) (arms : List Arm)
  | closure (params : List Pattern) (body : Expr)
  | tuple (elements : List Expr)
  | array (elements : List Expr)
  | struct (path : Path) (fields : List FieldValue) (base : Option Expr)
  | range (closed : Bool) (first last : Option Expr)
  | cast (operand : Expr) (type : Ty)
  | try (operand : Expr)
  | await (operand : Expr)
  | letCondition (pattern : Pattern) (value : Expr)
  | macroCall (path : Path) (delimiter : Delimiter)
  -- The forms below have no kind of their own in a tree.
  | asyncBlock (body : List Stmt)
  | constBlock (body : List Stmt)
  | tryBlock (body : List Stmt)
  | fill (element length : Expr)
  | rawReference (operand : Expr)
  | yield (value : Option Expr)
  | infer
  | unnamed

inductive Arm where
  | mk (pattern : Pattern) (guard : Option Expr) (body : Expr)

inductive FieldValue where
  | mk (member : Member) (value : Expr)

inductive Stmt where
  | bind (pattern : Pattern) (value : Option Expr) (otherwise : Option Expr)
  | item (item : Item)
  | expr (expr : Expr)
  | macroCall (path : Path)

inductive Variant where
  | mk (name : String) (fields : List Field) (discriminant : Option Expr)

inductive Item where
  | function (signature : Signature) (body : List Stmt)
  | struct (name : String) (fields : List Field)
  | enum (name : String) (variants : List Variant)
  | module (name : String) (items : List Item)
  | use (tree : UseTree)
  | const (name : String) (type : Ty) (value : Expr)
  | static (name : String) (type : Ty) (value : Expr)
  | alias (name : String) (type : Ty)
  | impl (target : Ty) (trait : Option Path) (members : List ImplMember)
  | trait (name : String) (members : List TraitMember)
  | macroCall (path : Path)
  | other

inductive ImplMember where
  | function (signature : Signature) (body : List Stmt)
  | const (name : String) (type : Ty) (value : Expr)
  | alias (name : String) (type : Ty)
  | other

inductive TraitMember where
  | function (signature : Signature) (body : Option (List Stmt))
  | const (name : String) (type : Ty) (value : Option Expr)
  | alias (name : String) (value : Option Ty)
  | other

end

namespace Expr

def isRange : Expr → Bool
  | .range .. => true
  | _ => false

def isComparison : Expr → Bool
  | .binary op .. => op.precedence == Precedence.compare
  | _ => false

-- Whether the expression ends in a block that may end a statement or an arm by itself.
def isBlockLike : Expr → Bool
  | .ifElse .. | .while .. | .for .. | .loop _ | .block _ | .unsafeBlock _ | .match .. => true
  | .constBlock _ | .tryBlock _ => true
  | _ => false

def isBraceMacro : Expr → Bool
  | .macroCall _ .brace => true
  | _ => false

end Expr

end Arbor.Source
