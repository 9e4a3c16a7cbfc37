import Arbor.Tree.Basic

-- Measures of a tree taken with a list of nodes still to visit, so that no depth is too great. The
-- last child of a node is visited first.
namespace Arbor.Tree

def countFrom (count : Nat) : List Tree → Nat
  | [] => count
  | tree :: pending => countFrom (count + 1) (tree.children.reverse ++ pending)
termination_by pending => sizeAll pending
decreasing_by simp [sizeAll, size_eq]

def nodeCount (tree : Tree) : Nat := countFrom 0 [tree]

-- Each pending node comes with its own depth.
def depthFrom (deepest : Nat) : List (Nat × Tree) → Nat
  | [] => deepest
  | (depth, tree) :: pending =>
    depthFrom (max deepest depth) ((tree.children.map (depth + 1, ·)).reverse ++ pending)
termination_by pending => sizeAll (pending.map Prod.snd)
decreasing_by simp [sizeAll, size_eq, Function.comp_def]

def depth (tree : Tree) : Nat := depthFrom 0 [(0, tree)]

end Arbor.Tree
