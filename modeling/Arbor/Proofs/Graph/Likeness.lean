import Arbor.Proofs.Graph.Descent
import Arbor.Proofs.Graph.Label
import Arbor.Proofs.Tree.Position

-- Under either scheme, two trees have the same statements exactly if they are alike: of the same
-- shape, with the same labels. The statements are taken apart from the front, without numbers of
-- nodes being known beforehand.
namespace Arbor.Graph

open Arbor.Tree (Alike AlikeAll)

-- The number by which a scheme names a node, as it is declared and as its edges begin.
def Scheme.rank (scheme : Scheme) (depth ordinal : Nat) : Nat :=
  match scheme with
  | .depth => depth
  | .preOrder => ordinal

-- A label as it is written.
def Scheme.written (scheme : Scheme) (label : String) : String :=
  match scheme with
  | .depth => label
  | .preOrder => escape label

-- The first statement is not an edge of a node of this rank or a higher one. This marks the end of
-- such a node's children, since what follows them belongs to an ancestor.
def Quiet (rank : Nat) (body : List Statement) : Prop :=
  ∀ source target rest, body = .connect (.numbered source) target :: rest → source < rank

variable {scheme : Scheme} {depth ordinal rank : Nat} {body other : List Statement}
  {earlier past later trees : List Tree}

theorem declaration_eq (scheme : Scheme) (tree : Tree) (depth ordinal : Nat) :
    scheme.declaration tree depth ordinal =
      .declare (.numbered (scheme.rank depth ordinal)) (scheme.written tree.label) := by
  cases scheme <;> rfl

theorem exists_edge_eq (scheme : Scheme) (depth index parent child : Nat) :
    ∃ target, scheme.edge depth index parent child =
      .connect (.numbered (scheme.rank depth parent)) target := by
  cases scheme
  · exact ⟨_, rfl⟩
  · exact ⟨_, rfl⟩

theorem rank_lt (scheme : Scheme) (depth : Nat) {parent child : Nat} (later : parent < child) :
    scheme.rank depth parent < scheme.rank (depth + 1) child := by
  cases scheme
  · exact Nat.lt_succ_self depth
  · exact later

theorem written_inj {left right : String} (same : scheme.written left = scheme.written right) :
    left = right := by
  cases scheme with
  | depth => exact same
  | preOrder => exact escape_inj same

-- Children that are left to draw begin with an edge of their parent's rank.
theorem not_quiet_cons (child : Tree) (siblings : List Tree) (rest : List Statement) :
    ¬ Quiet (scheme.rank depth ordinal)
      (descendAll scheme depth ordinal earlier (child :: siblings) ++ rest) := by
  intro quiet
  obtain ⟨target, begins⟩ := exists_edge_eq scheme depth earlier.length ordinal
    (ordinal + 1 + Tree.sizeAll earlier)
  rw [descendAll, begins] at quiet
  exact Nat.lt_irrefl _ (quiet _ _ _ rfl)

theorem Quiet.descendAll (quiet : Quiet (scheme.rank depth ordinal) body)
    (higher : scheme.rank depth ordinal < rank) (earlier later : List Tree) :
    Quiet rank (descendAll scheme depth ordinal earlier later ++ body) := by
  intro source target rest same
  cases later with
  | nil => exact Nat.lt_trans (quiet source target rest same) higher
  | cons child siblings =>
    obtain ⟨there, begins⟩ := exists_edge_eq scheme depth earlier.length ordinal
      (ordinal + 1 + Tree.sizeAll earlier)
    rw [Graph.descendAll, begins, List.cons_append] at same
    cases same
    exact higher

-- A child's statements: its edge, its declaration, what is below it, and what is beside it.
theorem descendAll_cons_append (scheme : Scheme) (depth ordinal : Nat) (earlier : List Tree)
    (child : Tree) (siblings : List Tree) (body : List Statement) :
    descendAll scheme depth ordinal earlier (child :: siblings) ++ body =
      scheme.edge depth earlier.length ordinal (ordinal + 1 + Tree.sizeAll earlier) ::
      scheme.declaration child (depth + 1) (ordinal + 1 + Tree.sizeAll earlier) ::
      (descendAll scheme (depth + 1) (ordinal + 1 + Tree.sizeAll earlier) [] child.children ++
        (descendAll scheme depth ordinal (earlier ++ [child]) siblings ++ body)) := by
  rw [descendAll, descend_eq]
  simp

theorem label_of_declaration {left right : Tree}
    (same : scheme.declaration left depth ordinal = scheme.declaration right depth ordinal) :
    left.label = right.label := by
  rw [declaration_eq, declaration_eq] at same
  exact written_inj (Statement.declare.inj same).2

-- The induction is over the forest on the left. What follows the children has to be carried along,
-- because only it shows where they end.
theorem descendAll_unique (placed : earlier.length = past.length)
    (counted : Tree.sizeAll earlier = Tree.sizeAll past)
    (quiet : Quiet (scheme.rank depth ordinal) body)
    (otherQuiet : Quiet (scheme.rank depth ordinal) other)
    (same : descendAll scheme depth ordinal earlier later ++ body =
      descendAll scheme depth ordinal past trees ++ other) :
    AlikeAll later trees ∧ body = other := by
  induction later using Tree.forest_induction generalizing depth ordinal earlier past trees body
    other with
  | nil =>
    cases trees with
    | nil => exact ⟨Tree.alikeAll_nil, same⟩
    | cons tree siblings =>
      rw [descendAll, List.nil_append] at same
      rw [same] at quiet
      exact absurd quiet (not_quiet_cons tree siblings other)
  | cons kind value children rest below beside =>
    cases trees with
    | nil =>
      rw [descendAll, List.nil_append] at same
      rw [← same] at otherQuiet
      exact absurd otherQuiet (not_quiet_cons _ rest body)
    | cons tree siblings =>
      rw [descendAll_cons_append, descendAll_cons_append, placed, counted] at same
      obtain ⟨_, same⟩ := List.cons.inj same
      obtain ⟨declared, same⟩ := List.cons.inj same
      have higher : scheme.rank depth ordinal <
          scheme.rank (depth + 1) (ordinal + 1 + Tree.sizeAll past) :=
        rank_lt scheme depth (by omega)
      obtain ⟨inside, after⟩ := below rfl rfl (quiet.descendAll higher _ _)
        (otherQuiet.descendAll higher _ _) same
      have here : Alike ⟨kind, value, children⟩ tree :=
        Tree.alike_iff.mpr ⟨label_of_declaration declared, inside⟩
      obtain ⟨others, rest⟩ := beside (by simp [placed])
        (by simp [Tree.sizeAll, counted, here.size_eq]) quiet otherQuiet after
      exact ⟨Tree.alikeAll_cons.mpr ⟨here, others⟩, rest⟩

theorem descendAll_congr (placed : earlier.length = past.length)
    (counted : Tree.sizeAll earlier = Tree.sizeAll past) (alike : AlikeAll later trees) :
    descendAll scheme depth ordinal earlier later = descendAll scheme depth ordinal past trees := by
  induction later using Tree.forest_induction generalizing depth ordinal earlier past trees with
  | nil => rw [alike.nil_eq, descendAll, descendAll]
  | cons kind value children rest below beside =>
    obtain ⟨tree, siblings, rfl⟩ := alike.cases
    obtain ⟨here, others⟩ := Tree.alikeAll_cons.mp alike
    obtain ⟨label, inside⟩ := Tree.alike_iff.mp here
    have after : descendAll scheme depth ordinal (earlier ++ [⟨kind, value, children⟩]) rest =
        descendAll scheme depth ordinal (past ++ [tree]) siblings :=
      beside (by simp [placed]) (by simp [Tree.sizeAll, counted, here.size_eq]) others
    rw [descendAll, descendAll, descend_eq, descend_eq, placed, counted, declaration_eq,
      declaration_eq, label, below rfl rfl inside, after]

theorem statements_eq_iff (scheme : Scheme) (left right : Tree) :
    statements scheme left = statements scheme right ↔ Alike left right := by
  rw [statements, statements, descend_eq, descend_eq, Tree.alike_iff]
  constructor
  · intro same
    obtain ⟨declared, children⟩ := List.cons.inj same
    rw [← List.append_nil (descendAll scheme 0 0 [] left.children),
      ← List.append_nil (descendAll scheme 0 0 [] right.children)] at children
    have quiet : Quiet (scheme.rank 0 0) [] := by
      intro source target rest impossible
      cases impossible
    exact ⟨label_of_declaration declared, (descendAll_unique rfl rfl quiet quiet children).1⟩
  · rintro ⟨label, inside⟩
    rw [declaration_eq, declaration_eq, label, descendAll_congr rfl rfl inside]

end Arbor.Graph
