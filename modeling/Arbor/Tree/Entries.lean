import Arbor.Tree.Basic

-- The nodes of a tree one after the other: each before its children, children from left to right.
namespace Arbor.Tree

structure Entry where
  depth : Nat
  kind : String
  value : String
deriving DecidableEq

-- `done` keeps the entries already listed, last first.
def entriesFrom (done : List Entry) : List (Nat × Tree) → List Entry
  | [] => done.reverse
  | (depth, tree) :: pending =>
    entriesFrom (⟨depth, tree.kind, tree.value⟩ :: done)
      (tree.children.map (depth + 1, ·) ++ pending)
termination_by pending => sizeAll (pending.map Prod.snd)
decreasing_by simp [sizeAll, size_eq, Function.comp_def]

def entries (tree : Tree) : List Entry := entriesFrom [] [(0, tree)]

end Arbor.Tree
