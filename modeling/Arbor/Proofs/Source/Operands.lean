import Arbor.Proofs.Tree.Position
import Arbor.Source.Syntax.Tree
import Mathlib.Data.List.Forall2

-- The operands of an expression stand in its tree, each at a place of its own and in source order.
-- The one operand that leaves no trace is the base of a struct expression.
namespace Arbor.Source

-- What an operand can be: an expression, or the statements of a body.
inductive Part where
  | expr (expr : Expr)
  | body (body : List Stmt)

def Part.tree : Part → Tree
  | .expr inner => inner.tree
  | .body stmts => ⟨"Block", "", stmtTrees stmts⟩

-- An operand, and the kinds of the nodes that stand between the expression's node and its own.
structure Operand where
  wrappers : List String
  part : Part

namespace Operand

def plain (expr : Expr) : Operand := ⟨[], .expr expr⟩

def body (body : List Stmt) : Operand := ⟨[], .body body⟩

def within (kind : String) (operand : Operand) : Operand :=
  { operand with wrappers := kind :: operand.wrappers }

end Operand

def Arm.operands : Arm → List Operand
  | .mk _ guard body =>
    (guard.toList.map fun expr => (Operand.plain expr).within "Guard") ++ [.plain body]

def FieldValue.operand : FieldValue → Operand
  | .mk _ value => (Operand.plain value).within "FieldValue"

-- The operands of an expression in source order.
def Expr.operands : Expr → List Operand
  | .literal _ | .path _ | .continue | .macroCall .. | .infer | .unnamed => []
  | .unary _ operand | .field operand _ | .paren operand | .reference _ operand | .cast operand _
  | .try operand | .await operand | .letCondition _ operand | .rawReference operand
  | .closure _ operand => [.plain operand]
  | .binary _ left right | .index left right | .assign left right | .fill left right =>
    [.plain left, .plain right]
  | .call head arguments | .methodCall head _ arguments =>
    .plain head :: arguments.map .plain
  | .tuple elements | .array elements => elements.map .plain
  | .return value | .break value | .yield value => value.toList.map .plain
  | .range _ first last => first.toList.map .plain ++ last.toList.map .plain
  | .ifElse condition body otherwise =>
    .plain condition :: .body body ::
      otherwise.toList.map fun expr => (Operand.plain expr).within "Else"
  | .while head body | .for _ head body => [.plain head, .body body]
  | .loop body | .block body | .unsafeBlock body | .asyncBlock body | .constBlock body
  | .tryBlock body => [.body body]
  | .match scrutinee arms =>
    .plain scrutinee :: arms.flatMap fun arm => arm.operands.map (Operand.within "Arm")
  | .struct _ fields base =>
    fields.map FieldValue.operand ++ base.toList.map .plain

-- Whether a tree shows the form of the expression. All other forms are shown alike, without operands.
def Expr.hasOwnKind : Expr → Bool
  | .asyncBlock _ | .constBlock _ | .tryBlock _ | .fill .. | .rawReference _ | .yield _ | .infer
  | .unnamed => false
  | _ => true

-- The expression without the base that a struct expression may have.
def Expr.withoutBase : Expr → Expr
  | .struct head fields _ => .struct head fields none
  | expr => expr

-- The operands stand below these nodes, in the same order; between them may be nodes that hold none.
inductive Holds : List Tree → List Operand → Prop where
  | nil : Holds [] []
  | aside {tree : Tree} {trees : List Tree} {operands : List Operand} :
    Holds trees operands → Holds (tree :: trees) operands
  | bare (part : Part) {trees : List Tree} {operands : List Operand} :
    Holds trees operands → Holds (part.tree :: trees) (⟨[], part⟩ :: operands)
  | wrapped {kind value : String} {children trees : List Tree} {inner operands : List Operand} :
    Holds children inner → Holds trees operands →
      Holds (⟨kind, value, children⟩ :: trees) (inner.map (Operand.within kind) ++ operands)

-- The path begins with the place of one of these nodes and leads to the operand.
def Leads (trees : List Tree) (operand : Operand) : List Nat → Prop
  | [] => False
  | index :: path => ∃ tree, trees[index]? = some tree ∧
    tree.node? path = some operand.part.tree ∧ tree.kindsAbove path = operand.wrappers

-- The path to the same node when one more node stands in front.
def behindOne : List Nat → List Nat
  | [] => []
  | index :: path => (index + 1) :: path

variable {trees others : List Tree} {operands more : List Operand} {operand : Operand}
  {path other : List Nat}

theorem Leads.ne_nil (leads : Leads trees operand path) : path ≠ [] := by
  rintro rfl
  exact leads

theorem Leads.found {tree : Tree} (leads : Leads tree.children operand path) :
    tree.node? path = some operand.part.tree ∧ (tree.kindsAbove path).tail = operand.wrappers := by
  cases path with
  | nil => exact leads.elim
  | cons index path =>
    obtain ⟨child, there, found, above⟩ := leads
    rw [Tree.node?_cons there, Tree.kindsAbove_cons there]
    exact ⟨found, above⟩

theorem Leads.behindOne (tree : Tree) (leads : Leads trees operand path) :
    Leads (tree :: trees) operand (behindOne path) := by
  cases path with
  | nil => exact leads
  | cons index path => exact leads

theorem Leads.within {kind value : String} {children : List Tree}
    (leads : Leads children operand path) :
    Leads (⟨kind, value, children⟩ :: trees) (operand.within kind) (0 :: path) := by
  cases path with
  | nil => exact leads.elim
  | cons index path =>
    obtain ⟨child, there, found, above⟩ := leads
    refine ⟨_, rfl, (Tree.node?_cons there).trans found, ?_⟩
    rw [Tree.kindsAbove_cons there, above]
    rfl

theorem leftOf_behindOne (left : Tree.LeftOf path other) :
    Tree.LeftOf (behindOne path) (behindOne other) := by
  cases path with
  | nil => exact left
  | cons index path =>
    cases other with
    | nil => exact left
    | cons otherIndex other =>
      rcases left with before | ⟨rfl, left⟩
      · exact .inl (Nat.succ_lt_succ before)
      · exact .inr ⟨rfl, left⟩

theorem leftOf_zero_behindOne (filled : other ≠ []) :
    Tree.LeftOf (0 :: path) (behindOne other) := by
  cases other with
  | nil => exact absurd rfl filled
  | cons index other => exact .inl (Nat.zero_lt_succ index)

theorem exists_leads {places : List (List Nat)}
    (leads : List.Forall₂ (Leads trees) operands places) :
    ∀ place ∈ places, ∃ operand, Leads trees operand place := by
  induction leads with
  | nil => exact List.forall_mem_nil _
  | cons first _ ih => exact List.forall_mem_cons.mpr ⟨⟨_, first⟩, ih⟩

theorem leftOf_places_behind {places : List (List Nat)}
    (leads : List.Forall₂ (Leads trees) operands places) :
    ∀ later ∈ places.map behindOne, Tree.LeftOf (0 :: path) later := by
  intro later member
  obtain ⟨place, listed, rfl⟩ := List.mem_map.mp member
  obtain ⟨operand, first⟩ := exists_leads leads place listed
  exact leftOf_zero_behindOne first.ne_nil

theorem Holds.exists_places (holds : Holds trees operands) :
    ∃ places, List.Forall₂ (Leads trees) operands places ∧ places.Pairwise Tree.LeftOf := by
  induction holds with
  | nil => exact ⟨[], .nil, .nil⟩
  | @aside tree trees operands _ ih =>
    obtain ⟨places, leads, ordered⟩ := ih
    refine ⟨places.map behindOne, ?_, ?_⟩
    · rw [List.forall₂_map_right_iff]
      exact leads.imp fun _ _ leads => leads.behindOne tree
    · exact ordered.map behindOne fun _ _ => leftOf_behindOne
  | @bare part trees operands _ ih =>
    obtain ⟨places, leads, ordered⟩ := ih
    refine ⟨[0] :: places.map behindOne, ?_, ?_⟩
    · refine .cons ⟨part.tree, rfl, rfl, rfl⟩ ?_
      rw [List.forall₂_map_right_iff]
      exact leads.imp fun _ _ leads => leads.behindOne part.tree
    · exact .cons (leftOf_places_behind leads)
        (ordered.map behindOne fun _ _ => leftOf_behindOne)
  | @wrapped kind value children trees inner operands _ _ ihInner ih =>
    obtain ⟨inside, leadsInside, orderedInside⟩ := ihInner
    obtain ⟨places, leads, ordered⟩ := ih
    refine ⟨inside.map (0 :: ·) ++ places.map behindOne, ?_, ?_⟩
    · refine List.rel_append ?_ ?_
      · rw [List.forall₂_map_left_iff, List.forall₂_map_right_iff]
        exact leadsInside.imp fun _ _ leads => leads.within
      · rw [List.forall₂_map_right_iff]
        exact leads.imp fun _ _ leads => leads.behindOne _
    · rw [List.pairwise_append]
      refine ⟨orderedInside.map _ fun _ _ left => .inr ⟨rfl, left⟩,
        ordered.map behindOne fun _ _ => leftOf_behindOne, ?_⟩
      intro earlier member
      obtain ⟨place, _, rfl⟩ := List.mem_map.mp member
      exact leftOf_places_behind leads

theorem Holds.append (holds : Holds trees operands) (beside : Holds others more) :
    Holds (trees ++ others) (operands ++ more) := by
  induction holds with
  | nil => exact beside
  | aside _ ih => exact .aside ih
  | bare part _ ih => exact .bare part ih
  | wrapped inside _ _ ih =>
    rw [List.append_assoc]
    exact .wrapped inside ih

theorem Holds.plain (expr : Expr) (beside : Holds trees operands) :
    Holds (expr.tree :: trees) (.plain expr :: operands) :=
  .bare (.expr expr) beside

theorem Holds.body (body : List Stmt) (beside : Holds trees operands) :
    Holds (⟨"Block", "", stmtTrees body⟩ :: trees) (.body body :: operands) :=
  .bare (.body body) beside

theorem holds_exprs : ∀ exprs : List Expr, Holds (exprTrees exprs) (exprs.map .plain)
  | [] => .nil
  | expr :: rest => .plain expr (holds_exprs rest)

theorem holds_option : ∀ value : Option Expr, Holds (optionTrees value) (value.toList.map .plain)
  | none => .nil
  | some expr => .plain expr .nil

theorem holds_else : ∀ otherwise : Option Expr, Holds (elseTrees otherwise)
    (otherwise.toList.map fun expr => (Operand.plain expr).within "Else")
  | none => .nil
  | some expr => .wrapped (.plain expr .nil) .nil

theorem holds_guard : ∀ guard : Option Expr, Holds (guardTrees guard)
    (guard.toList.map fun expr => (Operand.plain expr).within "Guard")
  | none => .nil
  | some expr => .wrapped (.plain expr .nil) .nil

theorem holds_arms : ∀ arms : List Arm, Holds (armTrees arms)
    (arms.flatMap fun arm => arm.operands.map (Operand.within "Arm"))
  | [] => .nil
  | .mk _ guard body :: rest =>
    .wrapped ((holds_guard guard).append (.plain body .nil)) (holds_arms rest)

theorem holds_fieldValues : ∀ fields : List FieldValue, Holds (fieldValueTrees fields)
    (fields.map FieldValue.operand)
  | [] => .nil
  | .mk _ value :: rest => .wrapped (.plain value .nil) (holds_fieldValues rest)

theorem holds_nothing : ∀ trees : List Tree, Holds trees []
  | [] => .nil
  | _ :: rest => .aside (holds_nothing rest)

-- Parentheses and blocks are shown as their only operand; any other form has a node of its own around
-- its operands.
theorem Expr.holds_operands : ∀ expr : Expr, expr.hasOwnKind = true →
    Holds expr.tree.children expr.withoutBase.operands ∨
      ∃ part, expr.withoutBase.operands = [⟨[], part⟩] ∧ expr.tree = part.tree
  | .literal _, _ | .path _, _ | .continue, _ | .macroCall .., _ => .inl .nil
  | .unary _ operand, _ | .field operand _, _ | .reference _ operand, _ | .cast operand _, _
  | .try operand, _ | .await operand, _ | .letCondition _ operand, _ => .inl (.plain operand .nil)
  | .loop body, _ | .unsafeBlock body, _ => .inl (.body body .nil)
  | .binary _ left right, _ | .index left right, _ | .assign left right, _ =>
    .inl (.plain left (.plain right .nil))
  | .while head body, _ | .for _ head body, _ => .inl (.plain head (.body body .nil))
  | .call head arguments, _ | .methodCall head _ arguments, _ =>
    .inl (.plain head (holds_exprs arguments))
  | .tuple elements, _ | .array elements, _ => .inl (holds_exprs elements)
  | .return value, _ | .break value, _ => .inl (holds_option value)
  | .range _ first last, _ => .inl ((holds_option first).append (holds_option last))
  | .ifElse condition body otherwise, _ =>
    .inl (.plain condition (.body body (holds_else otherwise)))
  | .match scrutinee arms, _ => .inl (.plain scrutinee (holds_arms arms))
  | .closure _ body, _ => .inl ((holds_nothing _).append (.plain body .nil))
  | .struct _ fields _, _ => .inl (by
    rw [Expr.withoutBase, Expr.operands, Option.toList_none, List.map_nil, List.append_nil]
    exact holds_fieldValues fields)
  | .paren inner, _ => .inr ⟨.expr inner, rfl, rfl⟩
  | .block body, _ => .inr ⟨.body body, rfl, rfl⟩

-- Each operand, a base apart, is found at a place of its own, under its wrappers and nothing else. No
-- operand stands within another, and they come one after the other in pre-order.
theorem operands_kept (expr : Expr) (own : expr.hasOwnKind = true) :
    ∃ places : List (List Nat),
      List.Forall₂ (fun operand place => expr.tree.node? place = some operand.part.tree ∧
        (expr.tree.kindsAbove place).tail = operand.wrappers) expr.withoutBase.operands places ∧
      places.Pairwise fun earlier later => Tree.LeftOf earlier later ∧
        expr.tree.number earlier < expr.tree.number later := by
  rcases expr.holds_operands own with holds | ⟨part, only, shown⟩
  · obtain ⟨places, leads, ordered⟩ := holds.exists_places
    refine ⟨places, leads.imp fun _ _ leads => leads.found, ordered.imp_of_mem ?_⟩
    intro earlier later member laterMember left
    obtain ⟨operand, first⟩ := exists_leads leads earlier member
    obtain ⟨otherOperand, second⟩ := exists_leads leads later laterMember
    exact ⟨left, left.number_lt first.found.1 second.found.1⟩
  · refine ⟨[[]], ?_, List.pairwise_singleton _ _⟩
    rw [only, shown]
    exact .cons ⟨rfl, rfl⟩ .nil

-- `match a { b if c => d }` has its three operands at different depths.
theorem operands_kept_match :
    let name (text : String) : Expr := .path (.ofName text)
    let expr : Expr := .match (name "a")
      [.mk (.name false false "b") (some (name "c")) (name "d")]
    expr.hasOwnKind = true ∧ ∃ places : List (List Nat),
      List.Forall₂ (fun operand place => expr.tree.node? place = some operand.part.tree ∧
        (expr.tree.kindsAbove place).tail = operand.wrappers) expr.withoutBase.operands places ∧
      places.Pairwise fun earlier later => Tree.LeftOf earlier later ∧
        expr.tree.number earlier < expr.tree.number later :=
  ⟨rfl, operands_kept _ rfl⟩

-- In `S { ..b }` the operand `b` stands nowhere.
theorem base_not_kept :
    let base : Expr := .path (.ofName "b")
    let expr : Expr := .struct (.ofName "S") [] (some base)
    expr.hasOwnKind = true ∧ expr.operands = [.plain base] ∧
      ∀ place, expr.tree.node? place ≠ some base.tree := by
  refine ⟨rfl, rfl, ?_⟩
  intro place found
  cases place with
  | nil => exact absurd (congrArg Tree.kind (Option.some.inj found)) (by decide)
  | cons index path => cases found

end Arbor.Source
