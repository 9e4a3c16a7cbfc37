-- Labelled ordered trees. A node has a kind, a value that may be empty, and children in order.
-- `size` and `height` follow the shape of the tree. They are the measures that the other modules
-- argue with; the ones meant to be run on trees of any depth are in `Arbor.Tree.Measure`.
namespace Arbor

structure Tree where
  kind : String
  value : String := ""
  children : List Tree := []
deriving Inhabited

namespace Tree

def leaf (kind : String) : Tree := { kind }

def label (tree : Tree) : String := tree.kind ++ " " ++ tree.value

def isLeaf (tree : Tree) : Bool := tree.children.isEmpty

def addChild (parent child : Tree) : Tree :=
  { parent with children := parent.children ++ [child] }

mutual

def size : Tree → Nat
  | ⟨_, _, children⟩ => 1 + sizeAll children

def sizeAll : List Tree → Nat
  | [] => 0
  | tree :: rest => tree.size + sizeAll rest

end

mutual

def height : Tree → Nat
  | ⟨_, _, children⟩ => heightAll children

def heightAll : List Tree → Nat
  | [] => 0
  | tree :: rest => max (tree.height + 1) (heightAll rest)

end

theorem size_eq (tree : Tree) : tree.size = 1 + sizeAll tree.children := by
  cases tree; simp [size]

theorem height_eq (tree : Tree) : tree.height = heightAll tree.children := by
  cases tree; simp [height]

@[simp] theorem sizeAll_append (left right : List Tree) :
    sizeAll (left ++ right) = sizeAll left + sizeAll right := by
  induction left with
  | nil => simp [sizeAll]
  | cons tree rest ih => simp only [List.cons_append, sizeAll, ih]; omega

@[simp] theorem sizeAll_reverse (trees : List Tree) : sizeAll trees.reverse = sizeAll trees := by
  induction trees with
  | nil => rfl
  | cons tree rest ih => simp only [List.reverse_cons, sizeAll_append, sizeAll, ih]; omega

end Tree

end Arbor
