import Arbor.Proofs.Graph.Descent
import Arbor.Proofs.Tree.Position

-- The descent seen from the nodes: every node but the root is arrived at by its edge and declared
-- at once, in the order of the paths and with the place in that order as its number.
namespace Arbor.Graph

-- What is written on arriving at the node that a path leads to, given its pre-order number. The
-- tree's own root stands at `depth` and has the number `ordinal`.
def arrival (scheme : Scheme) (tree : Tree) (depth ordinal : Nat) (path : List Nat) (number : Nat) :
    List Statement :=
  [scheme.edge (depth + path.dropLast.length) (path.getLastD 0)
      (ordinal + tree.number path.dropLast) number,
    scheme.declaration ((tree.node? path).getD tree) (depth + path.length) number]

-- Arrivals one after the other, numbered from `number` on.
def arrivals (scheme : Scheme) (tree : Tree) (depth ordinal number : Nat) :
    List (List Nat) → List Statement
  | [] => []
  | path :: rest =>
    arrival scheme tree depth ordinal path number ++
      arrivals scheme tree depth ordinal (number + 1) rest

variable {scheme : Scheme} {tree child : Tree} {path : List Nat} {index : Nat}

-- Seen from the parent, an arrival below a child is one step longer.
theorem arrival_cons (found : tree.children[index]? = some child) (depth ordinal number : Nat)
    (nonempty : path ≠ []) {node : Tree} (leads : child.node? path = some node) :
    arrival scheme tree depth ordinal (index :: path) number =
      arrival scheme child (depth + 1)
        (ordinal + 1 + Tree.sizeAll (tree.children.take index)) path number := by
  obtain ⟨first, rest, rfl⟩ := List.exists_cons_of_ne_nil nonempty
  have there : tree.node? (index :: first :: rest) = some node := by
    rw [Tree.node?_cons found, leads]
  simp only [arrival, List.dropLast_cons_cons, List.length_cons, there, leads, Option.getD_some,
    List.getLastD_cons, Tree.number_cons found, Nat.add_assoc, Nat.add_left_comm, Nat.add_comm]

theorem arrival_singleton (found : tree.children[index]? = some child)
    (depth ordinal number : Nat) :
    arrival scheme tree depth ordinal [index] number =
      [scheme.edge depth index ordinal number, scheme.declaration child (depth + 1) number] := by
  simp [arrival, Tree.node?, Tree.number, found]

theorem arrivals_cons (depth ordinal number : Nat) (path : List Nat) (rest : List (List Nat)) :
    arrivals scheme tree depth ordinal number (path :: rest) =
      arrival scheme tree depth ordinal path number ++
        arrivals scheme tree depth ordinal (number + 1) rest :=
  rfl

theorem arrivals_append (depth ordinal number : Nat) (left right : List (List Nat)) :
    arrivals scheme tree depth ordinal number (left ++ right) =
      arrivals scheme tree depth ordinal number left ++
        arrivals scheme tree depth ordinal (number + left.length) right := by
  induction left generalizing number with
  | nil => rfl
  | cons path left ih =>
    rw [List.cons_append, arrivals_cons, arrivals_cons, ih, List.append_assoc, List.length_cons,
      Nat.add_right_comm, Nat.add_assoc]

theorem length_arrivals (depth ordinal number : Nat) (paths : List (List Nat)) :
    (arrivals scheme tree depth ordinal number paths).length = 2 * paths.length := by
  induction paths generalizing number with
  | nil => rfl
  | cons path paths ih =>
    simp only [arrivals_cons, arrival, List.length_append, List.length_cons, List.length_nil, ih]
    omega

theorem arrivals_map_cons (found : tree.children[index]? = some child) (depth ordinal number : Nat)
    {paths : List (List Nat)}
    (inner : ∀ path ∈ paths, path ≠ [] ∧ ∃ node, child.node? path = some node) :
    arrivals scheme tree depth ordinal number (paths.map (index :: ·)) =
      arrivals scheme child (depth + 1)
        (ordinal + 1 + Tree.sizeAll (tree.children.take index)) number paths := by
  induction paths generalizing number with
  | nil => rfl
  | cons path paths ih =>
    obtain ⟨⟨nonempty, node, leads⟩, later⟩ := List.forall_mem_cons.mp inner
    rw [List.map_cons, arrivals_cons, arrivals_cons, arrival_cons found _ _ _ nonempty leads, ih _ later]

-- The numbers run on through the listing of paths, whatever the shape of the tree.
theorem descendAll_eq_arrivals {earlier later : List Tree} (depth ordinal : Nat)
    (shape : tree.children = earlier ++ later) :
    descendAll scheme depth ordinal earlier later =
      arrivals scheme tree depth ordinal (ordinal + 1 + Tree.sizeAll earlier)
        (Tree.pathsAll earlier.length later) := by
  induction later using Tree.forest_induction generalizing tree depth ordinal earlier with
  | nil => rfl
  | cons kind value children rest below beside =>
    let child : Tree := ⟨kind, value, children⟩
    have found : tree.children[earlier.length]? = some child := by simp [shape, child]
    have taken : tree.children.take earlier.length = earlier := by simp [shape]
    have inside := below (depth + 1) (ordinal + 1 + Tree.sizeAll earlier)
      (show child.children = [] ++ children from rfl)
    have after := beside depth ordinal
      (show tree.children = earlier ++ [child] ++ rest by simp [shape, child])
    have mapped := @arrivals_map_cons scheme _ _ _ found depth ordinal
      (ordinal + 1 + Tree.sizeAll earlier + 1) _ (fun path => @Tree.exists_of_mem_pathsAll child path)
    have listed : Tree.pathsAll earlier.length (child :: rest) = [earlier.length] ::
        ((Tree.pathsAll 0 child.children).map (earlier.length :: ·) ++
          Tree.pathsAll (earlier.length + 1) rest) := by
      rw [Tree.pathsAll, Tree.paths_eq]; rfl
    have upto : ordinal + 1 + Tree.sizeAll earlier + 1 +
        ((Tree.pathsAll 0 child.children).map (earlier.length :: ·)).length =
          ordinal + 1 + Tree.sizeAll (earlier ++ [child]) := by
      simp only [List.length_map, Tree.length_pathsAll, Tree.sizeAll_append, Tree.sizeAll,
        Tree.size_eq]
      omega
    rw [taken] at mapped
    rw [listed, arrivals_cons, arrival_singleton found, arrivals_append, mapped, upto, descendAll,
      descend_eq, inside, after, List.length_append]
    rfl

theorem descend_eq_arrivals (tree : Tree) (depth ordinal : Nat) :
    descend scheme depth ordinal tree =
      scheme.declaration tree depth ordinal ::
        arrivals scheme tree depth ordinal (ordinal + 1) (Tree.pathsAll 0 tree.children) := by
  rw [descend_eq, descendAll_eq_arrivals depth ordinal (show tree.children = [] ++ _ from rfl)]
  rfl

-- A drawing: the root's declaration, then an arrival for each path below it.
theorem statements_eq_arrivals (scheme : Scheme) (tree : Tree) :
    statements scheme tree = scheme.declaration tree 0 0 ::
      arrivals scheme tree 0 0 1 (Tree.pathsAll 0 tree.children) := by
  rw [statements, descend_eq_arrivals]

theorem length_statements (scheme : Scheme) (tree : Tree) :
    (statements scheme tree).length + 1 = 2 * tree.size := by
  rw [statements_eq_arrivals, List.length_cons, length_arrivals, Tree.length_pathsAll, Tree.size_eq]
  omega

end Arbor.Graph
