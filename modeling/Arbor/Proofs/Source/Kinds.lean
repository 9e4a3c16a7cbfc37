import Arbor.Proofs.Sexpr.Words
import Arbor.Source.File

-- The kinds in the tree of a source file. Each is the name of a construct, so it is a word,
-- whatever text the source holds in its literals, patterns and types.
namespace Arbor.Source

open Arbor.Sexpr (WordKinds AllWordKinds)

theorem wordKinds_construct {kind value : String} {children : List Tree}
    (letters : kind.toList ≠ [] ∧ kind.toList.all Sexpr.isWordChar = true)
    (kids : AllWordKinds children) : WordKinds ⟨kind, value, children⟩ :=
  ⟨⟨letters.1, List.all_eq_true.mp letters.2⟩, kids⟩

theorem wordKinds_block {children : List Tree} (kids : AllWordKinds children) :
    WordKinds ⟨"Block", "", children⟩ :=
  wordKinds_construct (by decide) kids

theorem Ty.wordKinds (type : Ty) : WordKinds type.tree := wordKinds_construct (by decide) trivial

theorem Param.wordKinds (param : Param) : WordKinds param.tree := by
  cases param with
  | receiver reference mutable =>
    cases reference <;> cases mutable <;> exact wordKinds_construct (by decide) trivial
  | typed pattern type => exact wordKinds_construct (by decide) ⟨type.wordKinds, trivial⟩

theorem Signature.allWordKinds (signature : Signature) : AllWordKinds signature.trees := by
  rw [Signature.trees, Sexpr.allWordKinds_append]
  constructor
  · rw [Sexpr.allWordKinds_iff]
    intro tree member
    obtain ⟨param, _, rfl⟩ := List.mem_map.mp member
    exact param.wordKinds
  · cases signature.result with
    | none => trivial
    | some type => exact ⟨wordKinds_construct (by decide) ⟨type.wordKinds, trivial⟩, trivial⟩

theorem allWordKinds_fieldTrees (fields : List Field) : AllWordKinds (fieldTrees fields) := by
  rw [Sexpr.allWordKinds_iff]
  intro tree member
  obtain ⟨index, bounded, rfl⟩ := List.mem_mapIdx.mp member
  exact wordKinds_construct (by decide) ⟨Ty.wordKinds _, trivial⟩

theorem Pattern.allWordKinds (pattern : Pattern) : AllWordKinds pattern.declaredType := by
  unfold Pattern.declaredType
  split
  · exact ⟨Ty.wordKinds _, trivial⟩
  · trivial

theorem allWordKinds_traitTree (trait : Option Path) :
    AllWordKinds (trait.map fun path => (⟨"Trait", path.shown, []⟩ : Tree)).toList := by
  cases trait with
  | none => trivial
  | some path => exact ⟨wordKinds_construct (by decide) trivial, trivial⟩

theorem allWordKinds_paramTrees (params : List Pattern) :
    AllWordKinds (params.map fun pattern => ⟨"Param", pattern.shown, []⟩) := by
  rw [Sexpr.allWordKinds_iff]
  intro tree member
  obtain ⟨pattern, _, rfl⟩ := List.mem_map.mp member
  exact wordKinds_construct (by decide) trivial

-- One theorem for each function of the mapping. Its arms are grouped by what their children are made
-- of; the names of the constructs differ, but each is looked at where it stands.
mutual

theorem Expr.wordKinds : ∀ expr : Expr, WordKinds expr.tree
  | .literal _ | .path _ | .continue | .macroCall .. | .asyncBlock _ | .constBlock _ | .tryBlock _
  | .fill .. | .rawReference _ | .yield _ | .infer | .unnamed =>
    wordKinds_construct (by decide) trivial
  | .unary _ operand | .field operand _ | .reference _ operand | .cast operand _ | .try operand
  | .await operand | .letCondition _ operand =>
    wordKinds_construct (by decide) ⟨operand.wordKinds, trivial⟩
  | .binary _ left right | .index left right | .assign left right =>
    wordKinds_construct (by decide) ⟨left.wordKinds, right.wordKinds, trivial⟩
  | .call head arguments | .methodCall head _ arguments =>
    wordKinds_construct (by decide) ⟨head.wordKinds, allWordKinds_exprTrees arguments⟩
  | .tuple elements | .array elements =>
    wordKinds_construct (by decide) (allWordKinds_exprTrees elements)
  | .return value | .break value => wordKinds_construct (by decide) (allWordKinds_optionTrees value)
  | .range _ first last =>
    wordKinds_construct (by decide)
      (Sexpr.allWordKinds_append.mpr ⟨allWordKinds_optionTrees first, allWordKinds_optionTrees last⟩)
  | .ifElse condition body otherwise =>
    wordKinds_construct (by decide) ⟨condition.wordKinds,
      wordKinds_block (allWordKinds_stmtTrees body), allWordKinds_elseTrees otherwise⟩
  | .while head body | .for _ head body =>
    wordKinds_construct (by decide)
      ⟨head.wordKinds, wordKinds_block (allWordKinds_stmtTrees body), trivial⟩
  | .loop body | .unsafeBlock body =>
    wordKinds_construct (by decide) ⟨wordKinds_block (allWordKinds_stmtTrees body), trivial⟩
  | .block body => wordKinds_block (allWordKinds_stmtTrees body)
  | .paren inner => inner.wordKinds
  | .match scrutinee arms =>
    wordKinds_construct (by decide) ⟨scrutinee.wordKinds, allWordKinds_armTrees arms⟩
  | .closure params body =>
    wordKinds_construct (by decide)
      (Sexpr.allWordKinds_append.mpr ⟨allWordKinds_paramTrees params, body.wordKinds, trivial⟩)
  | .struct _ fields _ => wordKinds_construct (by decide) (allWordKinds_fieldValueTrees fields)

theorem allWordKinds_exprTrees : ∀ exprs : List Expr, AllWordKinds (exprTrees exprs)
  | [] => trivial
  | expr :: rest => ⟨expr.wordKinds, allWordKinds_exprTrees rest⟩

theorem allWordKinds_optionTrees : ∀ value : Option Expr, AllWordKinds (optionTrees value)
  | none => trivial
  | some expr => ⟨expr.wordKinds, trivial⟩

theorem allWordKinds_elseTrees : ∀ otherwise : Option Expr, AllWordKinds (elseTrees otherwise)
  | none => trivial
  | some expr => ⟨wordKinds_construct (by decide) ⟨expr.wordKinds, trivial⟩, trivial⟩

theorem allWordKinds_guardTrees : ∀ guard : Option Expr, AllWordKinds (guardTrees guard)
  | none => trivial
  | some expr => ⟨wordKinds_construct (by decide) ⟨expr.wordKinds, trivial⟩, trivial⟩

theorem Arm.wordKinds : ∀ arm : Arm, WordKinds arm.tree
  | .mk _ guard body =>
    wordKinds_construct (by decide)
      (Sexpr.allWordKinds_append.mpr ⟨allWordKinds_guardTrees guard, body.wordKinds, trivial⟩)

theorem allWordKinds_armTrees : ∀ arms : List Arm, AllWordKinds (armTrees arms)
  | [] => trivial
  | arm :: rest => ⟨arm.wordKinds, allWordKinds_armTrees rest⟩

theorem FieldValue.wordKinds : ∀ field : FieldValue, WordKinds field.tree
  | .mk _ value => wordKinds_construct (by decide) ⟨value.wordKinds, trivial⟩

theorem allWordKinds_fieldValueTrees : ∀ fields : List FieldValue,
    AllWordKinds (fieldValueTrees fields)
  | [] => trivial
  | field :: rest => ⟨field.wordKinds, allWordKinds_fieldValueTrees rest⟩

theorem Stmt.wordKinds : ∀ stmt : Stmt, WordKinds stmt.tree
  | .bind pattern value otherwise =>
    wordKinds_construct (by decide) (Sexpr.allWordKinds_append.mpr
      ⟨Sexpr.allWordKinds_append.mpr ⟨pattern.allWordKinds, allWordKinds_optionTrees value⟩,
        allWordKinds_elseTrees otherwise⟩)
  | .item item => item.wordKinds
  | .expr expr => expr.wordKinds
  | .macroCall _ => wordKinds_construct (by decide) trivial

theorem allWordKinds_stmtTrees : ∀ stmts : List Stmt, AllWordKinds (stmtTrees stmts)
  | [] => trivial
  | stmt :: rest => ⟨stmt.wordKinds, allWordKinds_stmtTrees rest⟩

theorem Variant.wordKinds : ∀ variant : Variant, WordKinds variant.tree
  | .mk _ fields discriminant =>
    wordKinds_construct (by decide) (Sexpr.allWordKinds_append.mpr
      ⟨allWordKinds_fieldTrees fields, allWordKinds_optionTrees discriminant⟩)

theorem allWordKinds_variantTrees : ∀ variants : List Variant, AllWordKinds (variantTrees variants)
  | [] => trivial
  | variant :: rest => ⟨variant.wordKinds, allWordKinds_variantTrees rest⟩

theorem Item.wordKinds : ∀ item : Item, WordKinds item.tree
  | .use _ | .macroCall _ | .other => wordKinds_construct (by decide) trivial
  | .function signature body =>
    wordKinds_construct (by decide) (Sexpr.allWordKinds_append.mpr
      ⟨signature.allWordKinds, wordKinds_block (allWordKinds_stmtTrees body), trivial⟩)
  | .struct _ fields => wordKinds_construct (by decide) (allWordKinds_fieldTrees fields)
  | .enum _ variants => wordKinds_construct (by decide) (allWordKinds_variantTrees variants)
  | .module _ items => wordKinds_construct (by decide) (allWordKinds_itemTrees items)
  | .const _ type value | .static _ type value =>
    wordKinds_construct (by decide) ⟨type.wordKinds, value.wordKinds, trivial⟩
  | .alias _ type => wordKinds_construct (by decide) ⟨type.wordKinds, trivial⟩
  | .impl _ trait members =>
    wordKinds_construct (by decide) (Sexpr.allWordKinds_append.mpr
      ⟨allWordKinds_traitTree trait, allWordKinds_implMemberTrees members⟩)
  | .trait _ members => wordKinds_construct (by decide) (allWordKinds_traitMemberTrees members)

theorem allWordKinds_itemTrees : ∀ items : List Item, AllWordKinds (itemTrees items)
  | [] => trivial
  | item :: rest => ⟨item.wordKinds, allWordKinds_itemTrees rest⟩

theorem ImplMember.wordKinds : ∀ member : ImplMember, WordKinds member.tree
  | .function signature body =>
    wordKinds_construct (by decide) (Sexpr.allWordKinds_append.mpr
      ⟨signature.allWordKinds, wordKinds_block (allWordKinds_stmtTrees body), trivial⟩)
  | .const _ type value =>
    wordKinds_construct (by decide) ⟨type.wordKinds, value.wordKinds, trivial⟩
  | .alias _ type => wordKinds_construct (by decide) ⟨type.wordKinds, trivial⟩
  | .other => wordKinds_construct (by decide) trivial

theorem allWordKinds_implMemberTrees : ∀ members : List ImplMember,
    AllWordKinds (implMemberTrees members)
  | [] => trivial
  | member :: rest => ⟨member.wordKinds, allWordKinds_implMemberTrees rest⟩

theorem TraitMember.wordKinds : ∀ member : TraitMember, WordKinds member.tree
  | .function signature body =>
    wordKinds_construct (by decide) (Sexpr.allWordKinds_append.mpr
      ⟨signature.allWordKinds, allWordKinds_bodyTrees body⟩)
  | .const _ type _ => wordKinds_construct (by decide) ⟨type.wordKinds, trivial⟩
  | .alias .. | .other => wordKinds_construct (by decide) trivial

theorem allWordKinds_bodyTrees : ∀ body : Option (List Stmt), AllWordKinds (bodyTrees body)
  | none => trivial
  | some body => ⟨wordKinds_block (allWordKinds_stmtTrees body), trivial⟩

theorem allWordKinds_traitMemberTrees : ∀ members : List TraitMember,
    AllWordKinds (traitMemberTrees members)
  | [] => trivial
  | member :: rest => ⟨member.wordKinds, allWordKinds_traitMemberTrees rest⟩

end

theorem wordKinds_of_read {source : String} {tree : Tree} (accepted : read source = some tree) :
    WordKinds tree := by
  obtain ⟨items, _, rfl⟩ := Option.map_eq_some_iff.mp accepted
  exact wordKinds_construct (by decide) (allWordKinds_itemTrees items)

end Arbor.Source
