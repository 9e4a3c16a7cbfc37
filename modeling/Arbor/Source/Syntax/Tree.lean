import Arbor.Source.Syntax.Basic
import Arbor.Tree.Basic

-- The tree of a source file. A node's kind names the construct, its value is the identifier, the
-- operator or the literal that the construct carries, and its children are the parts in source
-- order. Constructs without a kind of their own become `Item` or `Expr` nodes; parentheses leave no
-- trace.
namespace Arbor.Source

def Ty.tree (type : Ty) : Tree := ⟨"Type", type.shown, []⟩

def Param.tree : Param → Tree
  | .receiver true true => ⟨"SelfParam", "&mut self", []⟩
  | .receiver true false => ⟨"SelfParam", "&self", []⟩
  | .receiver false true => ⟨"SelfParam", "mut self", []⟩
  | .receiver false false => ⟨"SelfParam", "self", []⟩
  | .typed pattern type => ⟨"Param", pattern.shown, [type.tree]⟩

def Signature.trees (signature : Signature) : List Tree :=
  signature.params.map Param.tree ++
    (signature.result.map fun type => (⟨"Return", "", [type.tree]⟩ : Tree)).toList

-- A field without a name shows its place.
def fieldTrees (fields : List Field) : List Tree :=
  fields.mapIdx fun index field => ⟨"Field", field.name.getD index.repr, [field.type.tree]⟩

def Pattern.declaredType : Pattern → List Tree
  | .typed _ type => [type.tree]
  | _ => []

mutual

def Expr.tree : Expr → Tree
  | .literal value => ⟨"Lit", value.shown, []⟩
  | .path path => ⟨"Path", path.shown, []⟩
  | .binary op left right => ⟨"Binary", op.text, [left.tree, right.tree]⟩
  | .unary op operand => ⟨"Unary", op.text, [operand.tree]⟩
  | .call callee arguments => ⟨"Call", "", callee.tree :: exprTrees arguments⟩
  | .methodCall receiver method arguments =>
    ⟨"MethodCall", method, receiver.tree :: exprTrees arguments⟩
  | .field base member => ⟨"Field", member.shown, [base.tree]⟩
  | .index base index => ⟨"Index", "", [base.tree, index.tree]⟩
  | .ifElse condition body otherwise =>
    ⟨"If", "", condition.tree :: ⟨"Block", "", stmtTrees body⟩ :: elseTrees otherwise⟩
  | .while condition body => ⟨"While", "", [condition.tree, ⟨"Block", "", stmtTrees body⟩]⟩
  | .for pattern source body =>
    ⟨"For", pattern.shown, [source.tree, ⟨"Block", "", stmtTrees body⟩]⟩
  | .loop body => ⟨"Loop", "", [⟨"Block", "", stmtTrees body⟩]⟩
  | .block body => ⟨"Block", "", stmtTrees body⟩
  | .unsafeBlock body => ⟨"Unsafe", "", [⟨"Block", "", stmtTrees body⟩]⟩
  | .return value => ⟨"Return", "", optionTrees value⟩
  | .break value => ⟨"Break", "", optionTrees value⟩
  | .continue => ⟨"Continue", "", []⟩
  | .assign target value => ⟨"Assign", "", [target.tree, value.tree]⟩
  | .paren inner => inner.tree
  | .reference mutable operand => ⟨"Ref", if mutable then "&mut" else "&", [operand.tree]⟩
  | .match scrutinee arms => ⟨"Match", "", scrutinee.tree :: armTrees arms⟩
  | .closure params body =>
    ⟨"Closure", "", params.map (fun pattern => ⟨"Param", pattern.shown, []⟩) ++ [body.tree]⟩
  | .tuple elements => ⟨"Tuple", "", exprTrees elements⟩
  | .array elements => ⟨"Array", "", exprTrees elements⟩
  | .struct path fields _ => ⟨"StructLit", path.shown, fieldValueTrees fields⟩
  | .range closed first last =>
    ⟨"Range", if closed then "..=" else "..", optionTrees first ++ optionTrees last⟩
  | .cast operand type => ⟨"Cast", type.shown, [operand.tree]⟩
  | .try operand => ⟨"Try", "?", [operand.tree]⟩
  | .await operand => ⟨"Await", "", [operand.tree]⟩
  | .letCondition pattern value => ⟨"LetCond", pattern.shown, [value.tree]⟩
  | .macroCall path _ => ⟨"Macro", path.shown, []⟩
  | .asyncBlock _ | .constBlock _ | .tryBlock _ | .fill .. | .rawReference _ | .yield _
  | .infer | .unnamed => ⟨"Expr", "", []⟩

def exprTrees : List Expr → List Tree
  | [] => []
  | expr :: rest => expr.tree :: exprTrees rest

def optionTrees : Option Expr → List Tree
  | none => []
  | some expr => [expr.tree]

def elseTrees : Option Expr → List Tree
  | none => []
  | some expr => [⟨"Else", "", [expr.tree]⟩]

def guardTrees : Option Expr → List Tree
  | none => []
  | some expr => [⟨"Guard", "", [expr.tree]⟩]

def Arm.tree : Arm → Tree
  | .mk pattern guard body => ⟨"Arm", pattern.shown, guardTrees guard ++ [body.tree]⟩

def armTrees : List Arm → List Tree
  | [] => []
  | arm :: rest => arm.tree :: armTrees rest

def FieldValue.tree : FieldValue → Tree
  | .mk member value => ⟨"FieldValue", member.shown, [value.tree]⟩

def fieldValueTrees : List FieldValue → List Tree
  | [] => []
  | field :: rest => field.tree :: fieldValueTrees rest

def Stmt.tree : Stmt → Tree
  | .bind pattern value otherwise =>
    ⟨"Let", pattern.shown, pattern.declaredType ++ optionTrees value ++ elseTrees otherwise⟩
  | .item item => item.tree
  | .expr expr => expr.tree
  | .macroCall path => ⟨"Macro", path.shown, []⟩

def stmtTrees : List Stmt → List Tree
  | [] => []
  | stmt :: rest => stmt.tree :: stmtTrees rest

def Variant.tree : Variant → Tree
  | .mk name fields discriminant =>
    ⟨"Variant", name, fieldTrees fields ++ optionTrees discriminant⟩

def variantTrees : List Variant → List Tree
  | [] => []
  | variant :: rest => variant.tree :: variantTrees rest

def Item.tree : Item → Tree
  | .function signature body =>
    ⟨"Fn", signature.name, signature.trees ++ [⟨"Block", "", stmtTrees body⟩]⟩
  | .struct name fields => ⟨"Struct", name, fieldTrees fields⟩
  | .enum name variants => ⟨"Enum", name, variantTrees variants⟩
  | .module name items => ⟨"Mod", name, itemTrees items⟩
  | .use tree => ⟨"Use", tree.shown, []⟩
  | .const name type value => ⟨"Const", name, [type.tree, value.tree]⟩
  | .static name type value => ⟨"Static", name, [type.tree, value.tree]⟩
  | .alias name type => ⟨"TypeAlias", name, [type.tree]⟩
  | .impl target trait members =>
    ⟨"Impl", target.shown,
      (trait.map fun path => (⟨"Trait", path.shown, []⟩ : Tree)).toList ++ implMemberTrees members⟩
  | .trait name members => ⟨"Trait", name, traitMemberTrees members⟩
  | .macroCall path => ⟨"Macro", path.shown, []⟩
  | .other => ⟨"Item", "", []⟩

def itemTrees : List Item → List Tree
  | [] => []
  | item :: rest => item.tree :: itemTrees rest

def ImplMember.tree : ImplMember → Tree
  | .function signature body =>
    ⟨"Fn", signature.name, signature.trees ++ [⟨"Block", "", stmtTrees body⟩]⟩
  | .const name type value => ⟨"Const", name, [type.tree, value.tree]⟩
  | .alias name type => ⟨"TypeAlias", name, [type.tree]⟩
  | .other => ⟨"Item", "", []⟩

def implMemberTrees : List ImplMember → List Tree
  | [] => []
  | member :: rest => member.tree :: implMemberTrees rest

def TraitMember.tree : TraitMember → Tree
  | .function signature body => ⟨"Fn", signature.name, signature.trees ++ bodyTrees body⟩
  | .const name type _ => ⟨"Const", name, [type.tree]⟩
  | .alias name _ => ⟨"TypeAlias", name, []⟩
  | .other => ⟨"Item", "", []⟩

def bodyTrees : Option (List Stmt) → List Tree
  | none => []
  | some body => [⟨"Block", "", stmtTrees body⟩]

def traitMemberTrees : List TraitMember → List Tree
  | [] => []
  | member :: rest => member.tree :: traitMemberTrees rest

end

def fileTree (items : List Item) : Tree := ⟨"File", "", itemTrees items⟩

end Arbor.Source
