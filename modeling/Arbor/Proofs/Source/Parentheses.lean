import Arbor.Source.Syntax.Tree
import Mathlib.Data.List.Forall2

-- Parentheses leave no trace in the tree of a file. Syntax *sheds* parentheses when some of the
-- pairs in it are dropped, any of them and at any depth, and all else is kept. The mapping to trees
-- looks at a part only through what that part is mapped to, so it cannot tell. There is one
-- exception: a `let` looks at its pattern for a declared type, so the parentheses right around a
-- typed pattern stay.
namespace Arbor.Source

def Pattern.isTyped : Pattern → Bool
  | .typed .. => true
  | _ => false

mutual

inductive Path.Sheds : Path → Path → Prop where
  | mk {rooted : Bool} {segments bares : List Segment} :
    List.Forall₂ Segment.Sheds segments bares → Path.Sheds (.mk rooted segments) (.mk rooted bares)

inductive Segment.Sheds : Segment → Segment → Prop where
  | mk {name : String} {arguments bares : Arguments} :
    Arguments.Sheds arguments bares → Segment.Sheds (.mk name arguments) (.mk name bares)

inductive Arguments.Sheds : Arguments → Arguments → Prop where
  | none : Arguments.Sheds .none .none
  | angled {arguments bares : List Argument} :
    List.Forall₂ Argument.Sheds arguments bares →
      Arguments.Sheds (.angled arguments) (.angled bares)

inductive Argument.Sheds : Argument → Argument → Prop where
  | keep (argument : Argument) : Argument.Sheds argument argument
  | type {type bare : Ty} : Ty.Sheds type bare → Argument.Sheds (.type type) (.type bare)

inductive Ty.Sheds : Ty → Ty → Prop where
  | keep (type : Ty) : Ty.Sheds type type
  -- The step that drops a pair of parentheses. The constructors below go on inside a form.
  | drop {inner bare : Ty} : Ty.Sheds inner bare → Ty.Sheds (.paren inner) bare
  | paren {inner bare : Ty} : Ty.Sheds inner bare → Ty.Sheds (.paren inner) (.paren bare)
  | path {qualified : Bool} {path bare : Path} :
    Path.Sheds path bare → Ty.Sheds (.path qualified path) (.path qualified bare)
  | reference {lifetime : Option String} {mutable : Bool} {target bare : Ty} :
    Ty.Sheds target bare → Ty.Sheds (.reference lifetime mutable target)
      (.reference lifetime mutable bare)
  | pointer {mutable : Bool} {target bare : Ty} :
    Ty.Sheds target bare → Ty.Sheds (.pointer mutable target) (.pointer mutable bare)
  | slice {element bare : Ty} : Ty.Sheds element bare → Ty.Sheds (.slice element) (.slice bare)
  | array {element bare : Ty} : Ty.Sheds element bare → Ty.Sheds (.array element) (.array bare)
  | tuple {elements bares : List Ty} :
    List.Forall₂ Ty.Sheds elements bares → Ty.Sheds (.tuple elements) (.tuple bares)

end

inductive Pattern.Sheds : Pattern → Pattern → Prop where
  | keep (pattern : Pattern) : Pattern.Sheds pattern pattern
  | drop {inner bare : Pattern} : inner.isTyped = false →
    Pattern.Sheds inner bare → Pattern.Sheds (.paren inner) bare
  | paren {inner bare : Pattern} :
    Pattern.Sheds inner bare → Pattern.Sheds (.paren inner) (.paren bare)
  | path {path bare : Path} : path.Sheds bare → Pattern.Sheds (.path path) (.path bare)
  | typed {pattern bare : Pattern} {type bareType : Ty} : Pattern.Sheds pattern bare →
    type.Sheds bareType → Pattern.Sheds (.typed pattern type) (.typed bare bareType)
  | reference {mutable : Bool} {target bare : Pattern} : Pattern.Sheds target bare →
    Pattern.Sheds (.reference mutable target) (.reference mutable bare)
  | tuple {elements bares : List Pattern} : List.Forall₂ Pattern.Sheds elements bares →
    Pattern.Sheds (.tuple elements) (.tuple bares)
  | tupleStruct {path bare : Path} {elements bares : List Pattern} : path.Sheds bare →
    List.Forall₂ Pattern.Sheds elements bares →
      Pattern.Sheds (.tupleStruct path elements) (.tupleStruct bare bares)
  | slice {elements bares : List Pattern} : List.Forall₂ Pattern.Sheds elements bares →
    Pattern.Sheds (.slice elements) (.slice bares)
  | struct {path bare : Path} : path.Sheds bare → Pattern.Sheds (.struct path) (.struct bare)
  | or {cases bares : List Pattern} : List.Forall₂ Pattern.Sheds cases bares →
    Pattern.Sheds (.or cases) (.or bares)

inductive Param.Sheds : Param → Param → Prop where
  | keep (param : Param) : Param.Sheds param param
  | typed {pattern bare : Pattern} {type bareType : Ty} : pattern.Sheds bare →
    type.Sheds bareType → Param.Sheds (.typed pattern type) (.typed bare bareType)

structure Signature.Sheds (signature bare : Signature) : Prop where
  name : signature.name = bare.name
  params : List.Forall₂ Param.Sheds signature.params bare.params
  result : Option.Rel Ty.Sheds signature.result bare.result

structure Field.Sheds (field bare : Field) : Prop where
  name : field.name = bare.name
  type : field.type.Sheds bare.type

mutual

inductive Expr.Sheds : Expr → Expr → Prop where
  | keep (expr : Expr) : Expr.Sheds expr expr
  | drop {inner bare : Expr} : Expr.Sheds inner bare → Expr.Sheds (.paren inner) bare
  | paren {inner bare : Expr} : Expr.Sheds inner bare → Expr.Sheds (.paren inner) (.paren bare)
  | path {path bare : Path} : path.Sheds bare → Expr.Sheds (.path path) (.path bare)
  | binary {op : BinaryOp} {left bareLeft right bareRight : Expr} : Expr.Sheds left bareLeft →
    Expr.Sheds right bareRight → Expr.Sheds (.binary op left right) (.binary op bareLeft bareRight)
  | unary {op : UnaryOp} {operand bare : Expr} :
    Expr.Sheds operand bare → Expr.Sheds (.unary op operand) (.unary op bare)
  | call {callee bare : Expr} {arguments bares : List Expr} : Expr.Sheds callee bare →
    List.Forall₂ Expr.Sheds arguments bares → Expr.Sheds (.call callee arguments) (.call bare bares)
  | methodCall {receiver bare : Expr} {method : String} {arguments bares : List Expr} :
    Expr.Sheds receiver bare → List.Forall₂ Expr.Sheds arguments bares →
      Expr.Sheds (.methodCall receiver method arguments) (.methodCall bare method bares)
  | field {base bare : Expr} {member : Member} :
    Expr.Sheds base bare → Expr.Sheds (.field base member) (.field bare member)
  | index {base bareBase index bareIndex : Expr} : Expr.Sheds base bareBase →
    Expr.Sheds index bareIndex → Expr.Sheds (.index base index) (.index bareBase bareIndex)
  | ifElse {condition bare : Expr} {body bares : List Stmt} {otherwise bareElse : Option Expr} :
    Expr.Sheds condition bare → List.Forall₂ Stmt.Sheds body bares →
      Option.Rel Expr.Sheds otherwise bareElse →
        Expr.Sheds (.ifElse condition body otherwise) (.ifElse bare bares bareElse)
  | while {condition bare : Expr} {body bares : List Stmt} : Expr.Sheds condition bare →
    List.Forall₂ Stmt.Sheds body bares → Expr.Sheds (.while condition body) (.while bare bares)
  | for {pattern barePattern : Pattern} {source bare : Expr} {body bares : List Stmt} :
    pattern.Sheds barePattern → Expr.Sheds source bare → List.Forall₂ Stmt.Sheds body bares →
      Expr.Sheds (.for pattern source body) (.for barePattern bare bares)
  | loop {body bares : List Stmt} :
    List.Forall₂ Stmt.Sheds body bares → Expr.Sheds (.loop body) (.loop bares)
  | block {body bares : List Stmt} :
    List.Forall₂ Stmt.Sheds body bares → Expr.Sheds (.block body) (.block bares)
  | unsafeBlock {body bares : List Stmt} :
    List.Forall₂ Stmt.Sheds body bares → Expr.Sheds (.unsafeBlock body) (.unsafeBlock bares)
  | return {value bare : Option Expr} :
    Option.Rel Expr.Sheds value bare → Expr.Sheds (.return value) (.return bare)
  | break {value bare : Option Expr} :
    Option.Rel Expr.Sheds value bare → Expr.Sheds (.break value) (.break bare)
  | assign {target bareTarget value bareValue : Expr} : Expr.Sheds target bareTarget →
    Expr.Sheds value bareValue → Expr.Sheds (.assign target value) (.assign bareTarget bareValue)
  | reference {mutable : Bool} {operand bare : Expr} :
    Expr.Sheds operand bare → Expr.Sheds (.reference mutable operand) (.reference mutable bare)
  | match {scrutinee bare : Expr} {arms bares : List Arm} : Expr.Sheds scrutinee bare →
    List.Forall₂ Arm.Sheds arms bares → Expr.Sheds (.match scrutinee arms) (.match bare bares)
  | closure {params bares : List Pattern} {body bare : Expr} :
    List.Forall₂ Pattern.Sheds params bares → Expr.Sheds body bare →
      Expr.Sheds (.closure params body) (.closure bares bare)
  | tuple {elements bares : List Expr} :
    List.Forall₂ Expr.Sheds elements bares → Expr.Sheds (.tuple elements) (.tuple bares)
  | array {elements bares : List Expr} :
    List.Forall₂ Expr.Sheds elements bares → Expr.Sheds (.array elements) (.array bares)
  | struct {path bare : Path} {fields bares : List FieldValue} {base bareBase : Option Expr} :
    path.Sheds bare → List.Forall₂ FieldValue.Sheds fields bares →
      Option.Rel Expr.Sheds base bareBase →
        Expr.Sheds (.struct path fields base) (.struct bare bares bareBase)
  | range {closed : Bool} {first bareFirst last bareLast : Option Expr} :
    Option.Rel Expr.Sheds first bareFirst → Option.Rel Expr.Sheds last bareLast →
      Expr.Sheds (.range closed first last) (.range closed bareFirst bareLast)
  | cast {operand bare : Expr} {type bareType : Ty} : Expr.Sheds operand bare →
    type.Sheds bareType → Expr.Sheds (.cast operand type) (.cast bare bareType)
  | try {operand bare : Expr} : Expr.Sheds operand bare → Expr.Sheds (.try operand) (.try bare)
  | await {operand bare : Expr} :
    Expr.Sheds operand bare → Expr.Sheds (.await operand) (.await bare)
  | letCondition {pattern barePattern : Pattern} {value bare : Expr} :
    pattern.Sheds barePattern → Expr.Sheds value bare →
      Expr.Sheds (.letCondition pattern value) (.letCondition barePattern bare)
  | macroCall {path bare : Path} {delimiter : Delimiter} :
    path.Sheds bare → Expr.Sheds (.macroCall path delimiter) (.macroCall bare delimiter)
  | asyncBlock {body bares : List Stmt} :
    List.Forall₂ Stmt.Sheds body bares → Expr.Sheds (.asyncBlock body) (.asyncBlock bares)
  | constBlock {body bares : List Stmt} :
    List.Forall₂ Stmt.Sheds body bares → Expr.Sheds (.constBlock body) (.constBlock bares)
  | tryBlock {body bares : List Stmt} :
    List.Forall₂ Stmt.Sheds body bares → Expr.Sheds (.tryBlock body) (.tryBlock bares)
  | fill {element bare length bareLength : Expr} : Expr.Sheds element bare →
    Expr.Sheds length bareLength → Expr.Sheds (.fill element length) (.fill bare bareLength)
  | rawReference {operand bare : Expr} :
    Expr.Sheds operand bare → Expr.Sheds (.rawReference operand) (.rawReference bare)
  | yield {value bare : Option Expr} :
    Option.Rel Expr.Sheds value bare → Expr.Sheds (.yield value) (.yield bare)

inductive Arm.Sheds : Arm → Arm → Prop where
  | mk {pattern barePattern : Pattern} {guard bareGuard : Option Expr} {body bare : Expr} :
    pattern.Sheds barePattern → Option.Rel Expr.Sheds guard bareGuard → Expr.Sheds body bare →
      Arm.Sheds (.mk pattern guard body) (.mk barePattern bareGuard bare)

inductive FieldValue.Sheds : FieldValue → FieldValue → Prop where
  | mk {member : Member} {value bare : Expr} :
    Expr.Sheds value bare → FieldValue.Sheds (.mk member value) (.mk member bare)

inductive Stmt.Sheds : Stmt → Stmt → Prop where
  | bind {pattern barePattern : Pattern} {value bare otherwise bareElse : Option Expr} :
    pattern.Sheds barePattern → Option.Rel Expr.Sheds value bare →
      Option.Rel Expr.Sheds otherwise bareElse →
        Stmt.Sheds (.bind pattern value otherwise) (.bind barePattern bare bareElse)
  | item {item bare : Item} : Item.Sheds item bare → Stmt.Sheds (.item item) (.item bare)
  | expr {expr bare : Expr} : Expr.Sheds expr bare → Stmt.Sheds (.expr expr) (.expr bare)
  | macroCall {path bare : Path} :
    path.Sheds bare → Stmt.Sheds (.macroCall path) (.macroCall bare)

inductive Variant.Sheds : Variant → Variant → Prop where
  | mk {name : String} {fields bares : List Field} {discriminant bare : Option Expr} :
    List.Forall₂ Field.Sheds fields bares → Option.Rel Expr.Sheds discriminant bare →
      Variant.Sheds (.mk name fields discriminant) (.mk name bares bare)

inductive Item.Sheds : Item → Item → Prop where
  | keep (item : Item) : Item.Sheds item item
  | function {signature bare : Signature} {body bares : List Stmt} : signature.Sheds bare →
    List.Forall₂ Stmt.Sheds body bares →
      Item.Sheds (.function signature body) (.function bare bares)
  | struct {name : String} {fields bares : List Field} : List.Forall₂ Field.Sheds fields bares →
    Item.Sheds (.struct name fields) (.struct name bares)
  | enum {name : String} {variants bares : List Variant} :
    List.Forall₂ Variant.Sheds variants bares → Item.Sheds (.enum name variants) (.enum name bares)
  | module {name : String} {items bares : List Item} :
    List.Forall₂ Item.Sheds items bares → Item.Sheds (.module name items) (.module name bares)
  | const {name : String} {type bareType : Ty} {value bare : Expr} : type.Sheds bareType →
    Expr.Sheds value bare → Item.Sheds (.const name type value) (.const name bareType bare)
  | static {name : String} {type bareType : Ty} {value bare : Expr} : type.Sheds bareType →
    Expr.Sheds value bare → Item.Sheds (.static name type value) (.static name bareType bare)
  | alias {name : String} {type bare : Ty} :
    type.Sheds bare → Item.Sheds (.alias name type) (.alias name bare)
  | impl {target bare : Ty} {trait bareTrait : Option Path} {members bares : List ImplMember} :
    target.Sheds bare → Option.Rel Path.Sheds trait bareTrait →
      List.Forall₂ ImplMember.Sheds members bares →
        Item.Sheds (.impl target trait members) (.impl bare bareTrait bares)
  | trait {name : String} {members bares : List TraitMember} :
    List.Forall₂ TraitMember.Sheds members bares →
      Item.Sheds (.trait name members) (.trait name bares)
  | macroCall {path bare : Path} :
    path.Sheds bare → Item.Sheds (.macroCall path) (.macroCall bare)

inductive ImplMember.Sheds : ImplMember → ImplMember → Prop where
  | keep (member : ImplMember) : ImplMember.Sheds member member
  | function {signature bare : Signature} {body bares : List Stmt} : signature.Sheds bare →
    List.Forall₂ Stmt.Sheds body bares →
      ImplMember.Sheds (.function signature body) (.function bare bares)
  | const {name : String} {type bareType : Ty} {value bare : Expr} : type.Sheds bareType →
    Expr.Sheds value bare → ImplMember.Sheds (.const name type value) (.const name bareType bare)
  | alias {name : String} {type bare : Ty} :
    type.Sheds bare → ImplMember.Sheds (.alias name type) (.alias name bare)

inductive TraitMember.Sheds : TraitMember → TraitMember → Prop where
  | keep (member : TraitMember) : TraitMember.Sheds member member
  | function {signature bare : Signature} {body bareBody : Option (List Stmt)} :
    signature.Sheds bare → Option.Rel (List.Forall₂ Stmt.Sheds) body bareBody →
      TraitMember.Sheds (.function signature body) (.function bare bareBody)
  | const {name : String} {type bareType : Ty} {value bare : Option Expr} :
    type.Sheds bareType → Option.Rel Expr.Sheds value bare →
      TraitMember.Sheds (.const name type value) (.const name bareType bare)
  | alias {name : String} {value bare : Option Ty} :
    Option.Rel Ty.Sheds value bare → TraitMember.Sheds (.alias name value) (.alias name bare)

end

variable {α β : Type} {related : α → α → Prop}

theorem map_eq_of_forall₂ {f : α → β} {list bares : List α} (each : List.Forall₂ related list bares)
    (same : ∀ a b, related a b → f b = f a) : bares.map f = list.map f := by
  induction each with
  | nil => rfl
  | cons first _ ih => rw [List.map_cons, List.map_cons, same _ _ first, ih]

theorem mapIdx_eq_of_forall₂ {f : Nat → α → β} {list bares : List α}
    (each : List.Forall₂ related list bares) (same : ∀ i a b, related a b → f i b = f i a) :
    bares.mapIdx f = list.mapIdx f := by
  induction each generalizing f with
  | nil => rfl
  | cons first _ ih =>
    rw [List.mapIdx_cons, List.mapIdx_cons, same 0 _ _ first, ih fun i => same (i + 1)]

theorem option_map_eq_of_rel {f : α → β} {value bare : Option α} (each : Option.Rel related value bare)
    (same : ∀ a b, related a b → f b = f a) : bare.map f = value.map f := by
  cases each with
  | none => rfl
  | some inside => exact congrArg some (same _ _ inside)

-- One theorem for each function of the mapping, by recursion on the syntax: each arm of a function
-- meets the one way to go on inside its form.
mutual

theorem Path.shown_of_sheds : ∀ (path : Path) {bare : Path}, path.Sheds bare →
    bare.shown = path.shown
  | .mk _ segments, _, .mk shed => by
    rw [Path.shown, Path.shown, segmentsShown_of_sheds segments shed]

theorem segmentsShown_of_sheds : ∀ (segments : List Segment) {bares : List Segment},
    List.Forall₂ Segment.Sheds segments bares → segmentsShown bares = segmentsShown segments
  | [], _, .nil => rfl
  | segment :: rest, _, .cons shed others => by
    rw [segmentsShown, segmentsShown, segment.shown_of_sheds shed, segmentsShown_of_sheds rest others]

theorem Segment.shown_of_sheds : ∀ (segment : Segment) {bare : Segment}, segment.Sheds bare →
    bare.shown = segment.shown
  | .mk _ arguments, _, .mk shed => by
    rw [Segment.shown, Segment.shown, arguments.shown_of_sheds shed]

theorem Arguments.shown_of_sheds : ∀ (arguments : Arguments) {bares : Arguments},
    arguments.Sheds bares → bares.shown = arguments.shown
  | .none, _, .none => rfl
  | .angled arguments, _, .angled shed => by
    rw [Arguments.shown, Arguments.shown, argumentsShown_of_sheds arguments shed]

theorem argumentsShown_of_sheds : ∀ (arguments : List Argument) {bares : List Argument},
    List.Forall₂ Argument.Sheds arguments bares → argumentsShown bares = argumentsShown arguments
  | [], _, .nil => rfl
  | argument :: rest, _, .cons shed others => by
    rw [argumentsShown, argumentsShown, argument.shown_of_sheds shed,
      argumentsShown_of_sheds rest others]

theorem Argument.shown_of_sheds : ∀ (argument : Argument) {bare : Argument}, argument.Sheds bare →
    bare.shown = argument.shown
  | _, _, .keep _ => rfl
  | .type type, _, .type shed => by rw [Argument.shown, Argument.shown, type.shown_of_sheds shed]

theorem Ty.shown_of_sheds : ∀ (type : Ty) {bare : Ty}, type.Sheds bare → bare.shown = type.shown
  | _, _, .keep _ => rfl
  | .paren inner, _, .drop shed => inner.shown_of_sheds shed
  | .paren inner, _, .paren shed => by simp only [Ty.shown, inner.shown_of_sheds shed]
  | .path _ path, _, .path shed => by simp only [Ty.shown, path.shown_of_sheds shed]
  | .reference _ _ inner, _, .reference shed | .pointer _ inner, _, .pointer shed
  | .slice inner, _, .slice shed | .array inner, _, .array shed => by
    simp only [Ty.shown, inner.shown_of_sheds shed]
  | .tuple elements, _, .tuple shed => by
    rw [Ty.shown, Ty.shown, typesShown_of_sheds elements shed]

theorem typesShown_of_sheds : ∀ (types : List Ty) {bares : List Ty},
    List.Forall₂ Ty.Sheds types bares → typesShown bares = typesShown types
  | [], _, .nil => rfl
  | type :: rest, _, .cons shed others => by
    rw [typesShown, typesShown, type.shown_of_sheds shed, typesShown_of_sheds rest others]

end

mutual

theorem Pattern.shown_of_sheds : ∀ (pattern : Pattern) {bare : Pattern}, pattern.Sheds bare →
    bare.shown = pattern.shown
  | _, _, .keep _ => rfl
  | .paren inner, _, .drop _ shed => inner.shown_of_sheds shed
  | .paren inner, _, .paren shed | .typed inner _, _, .typed shed _
  | .reference _ inner, _, .reference shed => by
    simp only [Pattern.shown, inner.shown_of_sheds shed]
  | .path path, _, .path shed | .struct path, _, .struct shed => by
    simp only [Pattern.shown, path.shown_of_sheds shed]
  | .tuple elements, _, .tuple shed | .slice elements, _, .slice shed
  | .or elements, _, .or shed => by
    rw [Pattern.shown, Pattern.shown, patternsShown_of_sheds elements shed]
  | .tupleStruct path elements, _, .tupleStruct shed others => by
    rw [Pattern.shown, Pattern.shown, path.shown_of_sheds shed,
      patternsShown_of_sheds elements others]

theorem patternsShown_of_sheds : ∀ (patterns : List Pattern) {bares : List Pattern},
    List.Forall₂ Pattern.Sheds patterns bares → patternsShown bares = patternsShown patterns
  | [], _, .nil => rfl
  | pattern :: rest, _, .cons shed others => by
    rw [patternsShown, patternsShown, pattern.shown_of_sheds shed, patternsShown_of_sheds rest others]

end

theorem Ty.tree_of_sheds (type : Ty) {bare : Ty} (shed : type.Sheds bare) :
    bare.tree = type.tree := by
  rw [Ty.tree, Ty.tree, type.shown_of_sheds shed]

theorem Pattern.declaredType_of_untyped {pattern : Pattern} (untyped : pattern.isTyped = false) :
    pattern.declaredType = [] := by
  cases pattern with
  | typed inner type => cases untyped
  | _ => rfl

-- No typed pattern comes to light, because the parentheses around one are not dropped.
theorem Pattern.declaredType_of_sheds : ∀ (pattern : Pattern) {bare : Pattern}, pattern.Sheds bare →
    bare.declaredType = pattern.declaredType
  | _, _, .keep _ => rfl
  | .paren inner, _, .drop untyped shed => by
    rw [inner.declaredType_of_sheds shed, declaredType_of_untyped untyped]
    rfl
  | .typed _ type, _, .typed _ shed => by
    rw [declaredType, declaredType, type.tree_of_sheds shed]
  | _, _, .paren _ | _, _, .path _ | _, _, .reference _ | _, _, .tuple _ | _, _, .tupleStruct _ _
  | _, _, .slice _ | _, _, .struct _ | _, _, .or _ => rfl

theorem Param.tree_of_sheds {param bare : Param} (shed : param.Sheds bare) :
    bare.tree = param.tree := by
  cases shed with
  | keep => rfl
  | typed pattern type =>
    rw [Param.tree, Param.tree, Pattern.shown_of_sheds _ pattern, Ty.tree_of_sheds _ type]

theorem Signature.trees_of_sheds {signature bare : Signature} (shed : signature.Sheds bare) :
    bare.trees = signature.trees := by
  have params := map_eq_of_forall₂ shed.params fun _ _ => Param.tree_of_sheds
  have result := option_map_eq_of_rel shed.result fun type bare shed =>
    show (⟨"Return", "", [bare.tree]⟩ : Tree) = ⟨"Return", "", [type.tree]⟩ by
      rw [type.tree_of_sheds shed]
  rw [Signature.trees, Signature.trees, params, result]

theorem fieldTrees_of_sheds {fields bares : List Field}
    (shed : List.Forall₂ Field.Sheds fields bares) : fieldTrees bares = fieldTrees fields := by
  refine mapIdx_eq_of_forall₂ shed ?_
  intro index field bare shed
  rw [shed.name, field.type.tree_of_sheds shed.type]

theorem paramTrees_of_sheds {params bares : List Pattern}
    (shed : List.Forall₂ Pattern.Sheds params bares) :
    (bares.map fun pattern => (⟨"Param", pattern.shown, []⟩ : Tree)) =
      params.map fun pattern => ⟨"Param", pattern.shown, []⟩ :=
  map_eq_of_forall₂ shed fun pattern _ shed => by rw [pattern.shown_of_sheds shed]

theorem traitTree_of_sheds {trait bare : Option Path} (shed : Option.Rel Path.Sheds trait bare) :
    (bare.map fun path => (⟨"Trait", path.shown, []⟩ : Tree)) =
      trait.map fun path => ⟨"Trait", path.shown, []⟩ :=
  option_map_eq_of_rel shed fun path _ shed => by rw [path.shown_of_sheds shed]

mutual

theorem Expr.tree_of_sheds : ∀ (expr : Expr) {bare : Expr}, expr.Sheds bare → bare.tree = expr.tree
  | _, _, .keep _ | _, _, .asyncBlock _ | _, _, .constBlock _ | _, _, .tryBlock _ | _, _, .fill _ _
  | _, _, .rawReference _ | _, _, .yield _ => rfl
  | .paren inner, _, .drop shed => inner.tree_of_sheds shed
  | .path path, _, .path shed | .macroCall path _, _, .macroCall shed => by
    rw [Expr.tree, Expr.tree, path.shown_of_sheds shed]
  | .paren operand, _, .paren shed | .unary _ operand, _, .unary shed
  | .field operand _, _, .field shed | .reference _ operand, _, .reference shed
  | .try operand, _, .try shed | .await operand, _, .await shed => by
    simp only [Expr.tree, operand.tree_of_sheds shed]
  | .cast operand type, _, .cast shed other => by
    rw [Expr.tree, Expr.tree, operand.tree_of_sheds shed, type.shown_of_sheds other]
  | .letCondition pattern value, _, .letCondition shed other => by
    rw [Expr.tree, Expr.tree, pattern.shown_of_sheds shed, value.tree_of_sheds other]
  | .binary _ left right, _, .binary shed other | .index left right, _, .index shed other
  | .assign left right, _, .assign shed other => by
    rw [Expr.tree, Expr.tree, left.tree_of_sheds shed, right.tree_of_sheds other]
  | .call head arguments, _, .call shed others
  | .methodCall head _ arguments, _, .methodCall shed others => by
    rw [Expr.tree, Expr.tree, head.tree_of_sheds shed, exprTrees_of_sheds arguments others]
  | .tuple elements, _, .tuple shed | .array elements, _, .array shed => by
    rw [Expr.tree, Expr.tree, exprTrees_of_sheds elements shed]
  | .return value, _, .return shed | .break value, _, .break shed => by
    rw [Expr.tree, Expr.tree, optionTrees_of_sheds value shed]
  | .range _ first last, _, .range shed other => by
    rw [Expr.tree, Expr.tree, optionTrees_of_sheds first shed, optionTrees_of_sheds last other]
  | .ifElse condition body otherwise, _, .ifElse shed others bareElse => by
    rw [Expr.tree, Expr.tree, condition.tree_of_sheds shed, stmtTrees_of_sheds body others,
      elseTrees_of_sheds otherwise bareElse]
  | .while condition body, _, .while shed others => by
    rw [Expr.tree, Expr.tree, condition.tree_of_sheds shed, stmtTrees_of_sheds body others]
  | .for pattern source body, _, .for shed other others => by
    rw [Expr.tree, Expr.tree, pattern.shown_of_sheds shed, source.tree_of_sheds other,
      stmtTrees_of_sheds body others]
  | .loop body, _, .loop shed | .block body, _, .block shed
  | .unsafeBlock body, _, .unsafeBlock shed => by
    rw [Expr.tree, Expr.tree, stmtTrees_of_sheds body shed]
  | .match scrutinee arms, _, .match shed others => by
    rw [Expr.tree, Expr.tree, scrutinee.tree_of_sheds shed, armTrees_of_sheds arms others]
  | .closure params body, _, .closure others shed => by
    rw [Expr.tree, Expr.tree, paramTrees_of_sheds others, body.tree_of_sheds shed]
  | .struct path fields _, _, .struct shed others _ => by
    rw [Expr.tree, Expr.tree, path.shown_of_sheds shed, fieldValueTrees_of_sheds fields others]
termination_by structural expr => expr

theorem exprTrees_of_sheds : ∀ (exprs : List Expr) {bares : List Expr},
    List.Forall₂ Expr.Sheds exprs bares → exprTrees bares = exprTrees exprs
  | [], _, .nil => rfl
  | expr :: rest, _, .cons shed others => by
    rw [exprTrees, exprTrees, expr.tree_of_sheds shed, exprTrees_of_sheds rest others]
termination_by structural exprs => exprs

theorem optionTrees_of_sheds : ∀ (value : Option Expr) {bare : Option Expr},
    Option.Rel Expr.Sheds value bare → optionTrees bare = optionTrees value
  | none, _, .none => rfl
  | some expr, _, .some shed => by rw [optionTrees, optionTrees, expr.tree_of_sheds shed]
termination_by structural value => value

theorem elseTrees_of_sheds : ∀ (otherwise : Option Expr) {bare : Option Expr},
    Option.Rel Expr.Sheds otherwise bare → elseTrees bare = elseTrees otherwise
  | none, _, .none => rfl
  | some expr, _, .some shed => by rw [elseTrees, elseTrees, expr.tree_of_sheds shed]
termination_by structural otherwise => otherwise

theorem guardTrees_of_sheds : ∀ (guard : Option Expr) {bare : Option Expr},
    Option.Rel Expr.Sheds guard bare → guardTrees bare = guardTrees guard
  | none, _, .none => rfl
  | some expr, _, .some shed => by rw [guardTrees, guardTrees, expr.tree_of_sheds shed]
termination_by structural guard => guard

theorem Arm.tree_of_sheds : ∀ (arm : Arm) {bare : Arm}, arm.Sheds bare → bare.tree = arm.tree
  | .mk pattern guard body, _, .mk shed other inner => by
    rw [Arm.tree, Arm.tree, pattern.shown_of_sheds shed, guardTrees_of_sheds guard other,
      body.tree_of_sheds inner]
termination_by structural arm => arm

theorem armTrees_of_sheds : ∀ (arms : List Arm) {bares : List Arm},
    List.Forall₂ Arm.Sheds arms bares → armTrees bares = armTrees arms
  | [], _, .nil => rfl
  | arm :: rest, _, .cons shed others => by
    rw [armTrees, armTrees, arm.tree_of_sheds shed, armTrees_of_sheds rest others]
termination_by structural arms => arms

theorem FieldValue.tree_of_sheds : ∀ (field : FieldValue) {bare : FieldValue}, field.Sheds bare →
    bare.tree = field.tree
  | .mk _ value, _, .mk shed => by
    rw [FieldValue.tree, FieldValue.tree, value.tree_of_sheds shed]
termination_by structural field => field

theorem fieldValueTrees_of_sheds : ∀ (fields : List FieldValue) {bares : List FieldValue},
    List.Forall₂ FieldValue.Sheds fields bares → fieldValueTrees bares = fieldValueTrees fields
  | [], _, .nil => rfl
  | field :: rest, _, .cons shed others => by
    rw [fieldValueTrees, fieldValueTrees, field.tree_of_sheds shed,
      fieldValueTrees_of_sheds rest others]
termination_by structural fields => fields

theorem Stmt.tree_of_sheds : ∀ (stmt : Stmt) {bare : Stmt}, stmt.Sheds bare → bare.tree = stmt.tree
  | .bind pattern value otherwise, _, .bind shed other bareElse => by
    rw [Stmt.tree, Stmt.tree, pattern.shown_of_sheds shed, pattern.declaredType_of_sheds shed,
      optionTrees_of_sheds value other, elseTrees_of_sheds otherwise bareElse]
  | .item item, _, .item shed => by simp only [Stmt.tree, item.tree_of_sheds shed]
  | .expr expr, _, .expr shed => by simp only [Stmt.tree, expr.tree_of_sheds shed]
  | .macroCall path, _, .macroCall shed => by
    rw [Stmt.tree, Stmt.tree, path.shown_of_sheds shed]
termination_by structural stmt => stmt

theorem stmtTrees_of_sheds : ∀ (stmts : List Stmt) {bares : List Stmt},
    List.Forall₂ Stmt.Sheds stmts bares → stmtTrees bares = stmtTrees stmts
  | [], _, .nil => rfl
  | stmt :: rest, _, .cons shed others => by
    rw [stmtTrees, stmtTrees, stmt.tree_of_sheds shed, stmtTrees_of_sheds rest others]
termination_by structural stmts => stmts

theorem Variant.tree_of_sheds : ∀ (variant : Variant) {bare : Variant}, variant.Sheds bare →
    bare.tree = variant.tree
  | .mk _ _ discriminant, _, .mk shed other => by
    rw [Variant.tree, Variant.tree, fieldTrees_of_sheds shed, optionTrees_of_sheds discriminant other]
termination_by structural variant => variant

theorem variantTrees_of_sheds : ∀ (variants : List Variant) {bares : List Variant},
    List.Forall₂ Variant.Sheds variants bares → variantTrees bares = variantTrees variants
  | [], _, .nil => rfl
  | variant :: rest, _, .cons shed others => by
    rw [variantTrees, variantTrees, variant.tree_of_sheds shed, variantTrees_of_sheds rest others]
termination_by structural variants => variants

theorem Item.tree_of_sheds : ∀ (item : Item) {bare : Item}, item.Sheds bare → bare.tree = item.tree
  | _, _, .keep _ => rfl
  | .function _ body, _, .function shed others => by
    rw [Item.tree, Item.tree, shed.name, Signature.trees_of_sheds shed, stmtTrees_of_sheds body others]
  | .struct _ _, _, .struct shed => by rw [Item.tree, Item.tree, fieldTrees_of_sheds shed]
  | .enum _ variants, _, .enum shed => by
    rw [Item.tree, Item.tree, variantTrees_of_sheds variants shed]
  | .module _ items, _, .module shed => by
    rw [Item.tree, Item.tree, itemTrees_of_sheds items shed]
  | .const _ type value, _, .const shed other | .static _ type value, _, .static shed other => by
    rw [Item.tree, Item.tree, type.tree_of_sheds shed, value.tree_of_sheds other]
  | .alias _ type, _, .alias shed => by rw [Item.tree, Item.tree, type.tree_of_sheds shed]
  | .impl target _ members, _, .impl shed other others => by
    rw [Item.tree, Item.tree, target.shown_of_sheds shed, traitTree_of_sheds other,
      implMemberTrees_of_sheds members others]
  | .trait _ members, _, .trait shed => by
    rw [Item.tree, Item.tree, traitMemberTrees_of_sheds members shed]
  | .macroCall path, _, .macroCall shed => by
    rw [Item.tree, Item.tree, path.shown_of_sheds shed]
termination_by structural item => item

theorem itemTrees_of_sheds : ∀ (items : List Item) {bares : List Item},
    List.Forall₂ Item.Sheds items bares → itemTrees bares = itemTrees items
  | [], _, .nil => rfl
  | item :: rest, _, .cons shed others => by
    rw [itemTrees, itemTrees, item.tree_of_sheds shed, itemTrees_of_sheds rest others]
termination_by structural items => items

theorem ImplMember.tree_of_sheds : ∀ (member : ImplMember) {bare : ImplMember}, member.Sheds bare →
    bare.tree = member.tree
  | _, _, .keep _ => rfl
  | .function _ body, _, .function shed others => by
    rw [ImplMember.tree, ImplMember.tree, shed.name, Signature.trees_of_sheds shed,
      stmtTrees_of_sheds body others]
  | .const _ type value, _, .const shed other => by
    rw [ImplMember.tree, ImplMember.tree, type.tree_of_sheds shed, value.tree_of_sheds other]
  | .alias _ type, _, .alias shed => by
    rw [ImplMember.tree, ImplMember.tree, type.tree_of_sheds shed]
termination_by structural member => member

theorem implMemberTrees_of_sheds : ∀ (members : List ImplMember) {bares : List ImplMember},
    List.Forall₂ ImplMember.Sheds members bares → implMemberTrees bares = implMemberTrees members
  | [], _, .nil => rfl
  | member :: rest, _, .cons shed others => by
    rw [implMemberTrees, implMemberTrees, member.tree_of_sheds shed,
      implMemberTrees_of_sheds rest others]
termination_by structural members => members

theorem TraitMember.tree_of_sheds : ∀ (member : TraitMember) {bare : TraitMember},
    member.Sheds bare → bare.tree = member.tree
  | _, _, .keep _ | _, _, .alias _ => rfl
  | .function _ body, _, .function shed others => by
    rw [TraitMember.tree, TraitMember.tree, shed.name, Signature.trees_of_sheds shed,
      bodyTrees_of_sheds body others]
  | .const _ type _, _, .const shed _ => by
    rw [TraitMember.tree, TraitMember.tree, type.tree_of_sheds shed]
termination_by structural member => member

theorem bodyTrees_of_sheds : ∀ (body : Option (List Stmt)) {bare : Option (List Stmt)},
    Option.Rel (List.Forall₂ Stmt.Sheds) body bare → bodyTrees bare = bodyTrees body
  | none, _, .none => rfl
  | some body, _, .some shed => by rw [bodyTrees, bodyTrees, stmtTrees_of_sheds body shed]
termination_by structural body => body

theorem traitMemberTrees_of_sheds : ∀ (members : List TraitMember) {bares : List TraitMember},
    List.Forall₂ TraitMember.Sheds members bares → traitMemberTrees bares = traitMemberTrees members
  | [], _, .nil => rfl
  | member :: rest, _, .cons shed others => by
    rw [traitMemberTrees, traitMemberTrees, member.tree_of_sheds shed,
      traitMemberTrees_of_sheds rest others]
termination_by structural members => members

end

-- Files that differ in parentheses only have the same tree.
theorem fileTree_of_sheds {items bares : List Item} (shed : List.Forall₂ Item.Sheds items bares) :
    fileTree bares = fileTree items := by
  rw [fileTree, fileTree, itemTrees_of_sheds items shed]

-- `fn f(a: (u8)) { let (b) = ((a)) + (1); }` with one pair kept, and the same without the others.
theorem fileTree_of_sheds_let :
    let operand : Expr := .path (.ofName "a")
    let one : Expr := .literal (.integer false 1 "")
    let type : Ty := .path false (.ofName "u8")
    let before : Item := .function ⟨"f", [.typed (.name false false "a") (.paren type)], none⟩
      [.bind (.paren (.name false false "b"))
        (some (.binary .add (.paren (.paren operand)) (.paren one))) none]
    let after : Item := .function ⟨"f", [.typed (.name false false "a") type], none⟩
      [.bind (.name false false "b") (some (.binary .add operand (.paren one))) none]
    List.Forall₂ Item.Sheds [before] [after] ∧ fileTree [after] = fileTree [before] := by
  intro operand one type before after
  have params : List.Forall₂ Param.Sheds [.typed (.name false false "a") (.paren type)]
      [.typed (.name false false "a") type] := .cons (.typed (.keep _) (.drop (.keep _))) .nil
  have sum : Expr.Sheds (.binary .add (.paren (.paren operand)) (.paren one))
      (.binary .add operand (.paren one)) := .binary (.drop (.drop (.keep _))) (.keep _)
  have shed : List.Forall₂ Item.Sheds [before] [after] :=
    .cons (.function ⟨rfl, params, .none⟩ (.cons (.bind (.drop rfl (.keep _)) (.some sum) .none) .nil))
      .nil
  exact ⟨shed, fileTree_of_sheds shed⟩

end Arbor.Source
