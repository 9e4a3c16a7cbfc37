import Arbor.Tree.Basic

-- Equality of trees, decided with a list of pairs still to compare.
namespace Arbor.Tree

def sameAll : List (Tree × Tree) → Bool
  | [] => true
  | (left, right) :: pending =>
    if left.kind = right.kind ∧ left.value = right.value ∧
        left.children.length = right.children.length then
      sameAll (left.children.zip right.children ++ pending)
    else false
termination_by pending => sizeAll (pending.map Prod.fst)
decreasing_by
  rename_i same
  simp [sizeAll, size_eq, List.map_fst_zip (Nat.le_of_eq same.2.2)]

def same (left right : Tree) : Bool := sameAll [(left, right)]

instance : BEq Tree := ⟨same⟩

end Arbor.Tree
