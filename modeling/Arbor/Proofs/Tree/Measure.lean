import Arbor.Tree.Measure
import Mathlib.Algebra.Ring.Nat

-- The measures taken with a list of pending nodes are those of the recursion over the tree. The
-- order in which nodes are visited does not matter: a count adds up what is pending, and a depth is
-- below a bound exactly if the depths of all that is pending are.
namespace Arbor.Tree

variable {tree : Tree} {trees : List Tree} {bound : Nat}

theorem countFrom_eq (count : Nat) (pending : List Tree) :
    countFrom count pending = count + sizeAll pending := by
  fun_induction countFrom count pending with
  | case1 count => rfl
  | case2 count tree pending ih =>
    rw [List.unattach_reverse, List.unattach_attach] at ih
    rw [ih, sizeAll_append, sizeAll_reverse, sizeAll, size_eq]
    omega

theorem nodeCount_eq_size (tree : Tree) : tree.nodeCount = tree.size := by
  rw [nodeCount, countFrom_eq, sizeAll, sizeAll]
  omega

theorem sizeAll_eq_sum (trees : List Tree) : sizeAll trees = (trees.map nodeCount).sum := by
  induction trees with
  | nil => rfl
  | cons tree rest ih => rw [sizeAll, List.map_cons, List.sum_cons, nodeCount_eq_size, ih]

theorem heightAll_le_iff : heightAll trees ≤ bound ↔ ∀ tree ∈ trees, tree.height + 1 ≤ bound := by
  induction trees with
  | nil => simp [heightAll]
  | cons tree rest ih => rw [heightAll, Nat.max_le, ih, List.forall_mem_cons]

theorem heightAll_append (left right : List Tree) :
    heightAll (left ++ right) = max (heightAll left) (heightAll right) := by
  induction left with
  | nil => simp [heightAll]
  | cons tree rest ih => rw [List.cons_append, heightAll, heightAll, ih, Nat.max_assoc]

-- A node at some depth reaches no deeper than a bound exactly if neither it nor its children do.
theorem add_height_le_iff (depth : Nat) : depth + tree.height ≤ bound ↔
    depth ≤ bound ∧ ∀ child ∈ tree.children, depth + 1 + child.height ≤ bound := by
  have shift : depth + tree.height ≤ bound ↔ depth ≤ bound ∧ tree.height ≤ bound - depth := by omega
  rw [shift, height_eq, heightAll_le_iff]
  refine and_congr_right fun here => forall_congr' fun child => imp_congr_right fun _ => ?_
  omega

theorem depthFrom_le_iff {deepest : Nat} {pending : List (Nat × Tree)} :
    depthFrom deepest pending ≤ bound ↔
      deepest ≤ bound ∧ ∀ entry ∈ pending, entry.1 + entry.2.height ≤ bound := by
  fun_induction depthFrom deepest pending with
  | case1 deepest => simp
  | case2 deepest depth tree pending ih =>
    simp only [List.map_subtype, List.unattach_attach] at ih
    rw [ih, List.forall_mem_cons, add_height_le_iff]
    simp only [Nat.max_le, List.forall_mem_append, List.mem_reverse, List.forall_mem_map, and_assoc]

theorem depth_eq_height (tree : Tree) : tree.depth = tree.height := by
  have within : ∀ bound, tree.depth ≤ bound ↔ tree.height ≤ bound := by
    intro bound
    simp [depth, depthFrom_le_iff]
  exact Nat.le_antisymm ((within _).mpr (Nat.le_refl _)) ((within _).mp (Nat.le_refl _))

theorem height_eq_max? (tree : Tree) :
    tree.height = (tree.children.map height).max?.elim 0 (1 + ·) := by
  have reached : ∀ child ∈ tree.children, child.height + 1 ≤ heightAll tree.children :=
    heightAll_le_iff.mp (Nat.le_refl _)
  rw [height_eq]
  cases greatest : (tree.children.map height).max? with
  | none =>
    rw [List.max?_eq_none_iff, List.map_eq_nil_iff] at greatest
    rw [greatest]
    rfl
  | some deepest =>
    obtain ⟨member, above⟩ := List.max?_eq_some_iff.mp greatest
    obtain ⟨child, inside, rfl⟩ := List.mem_map.mp member
    refine Nat.le_antisymm (heightAll_le_iff.mpr fun other beside => ?_) ?_
    · have := above _ (List.mem_map_of_mem beside)
      simp only [Option.elim_some]
      omega
    · have := reached child inside
      simp only [Option.elim_some]
      omega

-- Both loops take the last child first and mix the children of different nodes in one list, and yet
-- come to what a recursion over the tree gives. A new child brings in its nodes and its depth.
theorem measures_by_children (tree : Tree) :
    tree.nodeCount = 1 + (tree.children.map nodeCount).sum ∧
      tree.depth = (tree.children.map depth).max?.elim 0 (1 + ·) ∧
      ∀ child, (tree.addChild child).nodeCount = tree.nodeCount + child.nodeCount ∧
        (tree.addChild child).depth = max tree.depth (child.depth + 1) := by
  have depths : depth = height := funext depth_eq_height
  refine ⟨?_, ?_, fun child => ⟨?_, ?_⟩⟩
  · rw [nodeCount_eq_size, size_eq, sizeAll_eq_sum]
  · rw [depths, height_eq_max?]
  · simp only [nodeCount_eq_size, size_eq, addChild, sizeAll_append, sizeAll]
    omega
  · simp only [depths, height_eq, addChild, heightAll_append, heightAll, Nat.max_zero]

end Arbor.Tree
