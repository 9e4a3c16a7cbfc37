import Arbor.Tree.Basic

-- Places in a tree. A path says which child to take at each level; listed in pre-order, the paths
-- number the nodes.
namespace Arbor.Tree

-- A forest is empty, or a first tree with the forest of its children and the forest beside it.
@[elab_as_elim]
theorem forest_induction {motive : List Tree → Prop} (nil : motive [])
    (cons : ∀ kind value children rest, motive children → motive rest →
      motive (⟨kind, value, children⟩ :: rest)) : ∀ trees, motive trees
  | [] => nil
  | ⟨kind, value, children⟩ :: rest =>
    cons kind value children rest (forest_induction nil cons children)
      (forest_induction nil cons rest)

-- The node that a path leads to.
def node? : Tree → List Nat → Option Tree
  | tree, [] => some tree
  | tree, index :: path => (tree.children[index]?).bind (node? · path)

mutual

-- The paths to all nodes: the root, then the nodes of each child from left to right.
def paths : Tree → List (List Nat)
  | ⟨_, _, children⟩ => [] :: pathsAll 0 children

-- The paths to the nodes of children, the first of which stands at place `index`.
def pathsAll (index : Nat) : List Tree → List (List Nat)
  | [] => []
  | tree :: rest => tree.paths.map (index :: ·) ++ pathsAll (index + 1) rest

end

-- The number of nodes before the one that a path leads to.
def number : Tree → List Nat → Nat
  | _, [] => 0
  | tree, index :: path =>
    1 + sizeAll (tree.children.take index) +
      ((tree.children[index]?).map (number · path)).getD 0

-- The kinds of the nodes above the one that a path leads to, the root first.
def kindsAbove : Tree → List Nat → List String
  | _, [] => []
  | tree, index :: path =>
    tree.kind :: ((tree.children[index]?).map (kindsAbove · path)).getD []

-- The first path turns left where the two part, so that neither place lies below the other.
def LeftOf : List Nat → List Nat → Prop
  | index :: path, otherIndex :: other => index < otherIndex ∨ index = otherIndex ∧ LeftOf path other
  | _, _ => False

-- The same shape, and the same label at every place.
def Alike (left right : Tree) : Prop :=
  ∀ path, (left.node? path).map label = (right.node? path).map label

def AlikeAll (left right : List Tree) : Prop :=
  ∀ (index : Nat) (path : List Nat), ((left[index]?).bind (node? · path)).map label =
    ((right[index]?).bind (node? · path)).map label

-- The property holds at every place.
def Throughout (property : Tree → Prop) (tree : Tree) : Prop :=
  ∀ path node, tree.node? path = some node → property node

variable {tree child node : Tree} {trees : List Tree} {path : List Nat} {index : Nat}

theorem paths_eq (tree : Tree) : tree.paths = [] :: pathsAll 0 tree.children := by
  cases tree
  rw [paths]

theorem length_pathsAll (trees : List Tree) (index : Nat) :
    (pathsAll index trees).length = sizeAll trees := by
  induction trees using forest_induction generalizing index with
  | nil => rfl
  | cons kind value children rest below beside =>
    simp only [pathsAll, List.length_append, List.length_map, paths, List.length_cons, below,
      beside, sizeAll, size]
    omega

theorem length_paths (tree : Tree) : tree.paths.length = tree.size := by
  rw [paths_eq, List.length_cons, length_pathsAll, size_eq]
  omega

theorem node?_cons (found : tree.children[index]? = some child) :
    tree.node? (index :: path) = child.node? path := by
  simp [node?, found]

theorem number_cons (found : tree.children[index]? = some child) :
    tree.number (index :: path) = 1 + sizeAll (tree.children.take index) + child.number path := by
  simp [number, found]

theorem kindsAbove_cons (found : tree.children[index]? = some child) :
    tree.kindsAbove (index :: path) = tree.kind :: child.kindsAbove path := by
  simp [kindsAbove, found]

theorem exists_child (found : tree.node? (index :: path) = some node) :
    ∃ child, tree.children[index]? = some child ∧ child.node? path = some node :=
  Option.bind_eq_some_iff.mp found

-- The paths of one child lie behind those of its earlier siblings.
theorem getElem?_pathsAll (found : trees[index]? = some child) (start place : Nat)
    (inside : place < child.size) :
    (pathsAll start trees)[sizeAll (trees.take index) + place]? =
      (child.paths[place]?).map ((start + index) :: ·) := by
  induction trees generalizing index start with
  | nil => cases found
  | cons first rest ih =>
    cases index with
    | zero =>
      cases Option.some.inj found
      have early : place < (child.paths.map (start :: ·)).length := by
        rwa [List.length_map, length_paths]
      simp only [pathsAll, List.take_zero, sizeAll, Nat.zero_add]
      rw [List.getElem?_append_left early, List.getElem?_map, Nat.add_zero]
    | succ index =>
      have behind := ih (by simpa using found) (start + 1)
      have late : first.size ≤ first.size + (sizeAll (rest.take index) + place) := by omega
      simp only [pathsAll, List.take_succ_cons, sizeAll, Nat.add_assoc]
      rw [List.getElem?_append_right (by rw [List.length_map, length_paths]; exact late),
        List.length_map, length_paths, Nat.add_sub_cancel_left, behind, Nat.add_assoc start,
        Nat.add_comm 1]

theorem number_lt_size (found : tree.node? path = some node) : tree.number path < tree.size := by
  induction path generalizing tree with
  | nil => rw [number, size_eq]; omega
  | cons index path ih =>
    obtain ⟨child, there, below⟩ := exists_child found
    have inside := ih below
    obtain ⟨fits, rfl⟩ := List.getElem?_eq_some_iff.mp there
    have parts : sizeAll tree.children = sizeAll (tree.children.take index) +
        (tree.children[index].size + sizeAll (tree.children.drop (index + 1))) := by
      conv => lhs; rw [← List.take_append_drop index tree.children]
      rw [sizeAll_append, List.drop_eq_getElem_cons fits, sizeAll]
    rw [number_cons there, size_eq]
    omega

theorem sizeAll_take_le {later : Nat} (found : trees[index]? = some child) (before : index < later) :
    sizeAll (trees.take index) + child.size ≤ sizeAll (trees.take later) := by
  induction trees generalizing index later with
  | nil => cases found
  | cons first rest ih =>
    obtain ⟨later, rfl⟩ := Nat.exists_eq_succ_of_ne_zero (Nat.ne_of_gt (Nat.zero_lt_of_lt before))
    cases index with
    | zero =>
      cases Option.some.inj found
      simp only [List.take_zero, List.take_succ_cons, sizeAll]
      omega
    | succ index =>
      have behind := ih (by simpa using found) (Nat.lt_of_succ_lt_succ before)
      simp only [List.take_succ_cons, sizeAll]
      omega

-- What stands further left comes earlier.
theorem LeftOf.number_lt {other : List Nat} {otherNode : Tree} (left : LeftOf path other)
    (found : tree.node? path = some node) (otherFound : tree.node? other = some otherNode) :
    tree.number path < tree.number other := by
  induction path generalizing tree other with
  | nil => exact left.elim
  | cons index path ih =>
    cases other with
    | nil => exact left.elim
    | cons otherIndex other =>
      obtain ⟨child, there, below⟩ := exists_child found
      obtain ⟨otherChild, otherThere, otherBelow⟩ := exists_child otherFound
      rw [number_cons there, number_cons otherThere]
      rcases left with before | ⟨rfl, left⟩
      · have inside := number_lt_size below
        have ahead := sizeAll_take_le there before
        omega
      · cases Option.some.inj (there.symm.trans otherThere)
        have later := ih left below otherBelow
        omega

-- The listing has each path at the place of its number.
theorem getElem?_paths_number (found : tree.node? path = some node) :
    tree.paths[tree.number path]? = some path := by
  induction path generalizing tree with
  | nil => rw [paths_eq]; rfl
  | cons index path ih =>
    obtain ⟨child, there, below⟩ := exists_child found
    have place := getElem?_pathsAll there 0 _ (number_lt_size below)
    rw [ih below, Option.map_some, Nat.zero_add] at place
    rw [number_cons there, paths_eq, Nat.add_assoc, Nat.add_comm 1, List.getElem?_cons_succ, place]

-- A path in the listing of children leads into one of them.
theorem exists_of_getElem?_pathsAll {start place : Nat}
    (listed : (pathsAll start trees)[place]? = some path) :
    ∃ index child within rest, trees[index]? = some child ∧ path = (start + index) :: rest ∧
      child.paths[within]? = some rest ∧ place = sizeAll (trees.take index) + within := by
  induction trees generalizing start place with
  | nil => cases listed
  | cons first others ih =>
    rw [pathsAll, List.getElem?_append] at listed
    split at listed
    · rw [List.getElem?_map] at listed
      obtain ⟨rest, there, rfl⟩ := Option.map_eq_some_iff.mp listed
      exact ⟨0, first, place, rest, rfl, rfl, there, by simp [sizeAll]⟩
    · rename_i late
      rw [List.length_map, length_paths] at late listed
      obtain ⟨index, child, within, rest, found, rfl, there, same⟩ := ih listed
      refine ⟨index + 1, child, within, rest, by simpa using found, ?_, there, ?_⟩
      · rw [Nat.add_assoc, Nat.add_comm 1]
      · rw [List.take_succ_cons, sizeAll]
        omega

-- Conversely, a path stands in the listing only at the place of its number, and leads to a node.
theorem number_of_getElem?_paths {place : Nat} (listed : tree.paths[place]? = some path) :
    tree.number path = place ∧ ∃ node, tree.node? path = some node := by
  induction path generalizing tree place with
  | nil =>
    rw [paths_eq] at listed
    cases place with
    | zero => exact ⟨rfl, tree, rfl⟩
    | succ place =>
      obtain ⟨_, _, _, _, _, same, _⟩ := exists_of_getElem?_pathsAll listed
      cases same
  | cons index path ih =>
    rw [paths_eq] at listed
    cases place with
    | zero => cases listed
    | succ place =>
      obtain ⟨position, child, within, rest, found, same, there, counted⟩ :=
        exists_of_getElem?_pathsAll listed
      rw [Nat.zero_add] at same
      cases same
      obtain ⟨numbered, node, leads⟩ := ih there
      refine ⟨?_, node, ?_⟩
      · rw [number_cons found, numbered, counted]
        omega
      · rw [node?_cons found, leads]

-- The paths behind the root's all lead further down.
theorem exists_of_mem_pathsAll (listed : path ∈ pathsAll 0 tree.children) :
    path ≠ [] ∧ ∃ node, tree.node? path = some node := by
  obtain ⟨place, there⟩ := List.mem_iff_getElem?.mp listed
  constructor
  · obtain ⟨_, _, _, _, _, same, _⟩ := exists_of_getElem?_pathsAll there
    simp [same]
  · have inPaths : tree.paths[place + 1]? = some path := by rw [paths_eq]; exact there
    exact (number_of_getElem?_paths inPaths).2

-- A node comes after its parent.
theorem number_lt_number {up : List Nat} (found : tree.node? (up ++ [index]) = some node) :
    tree.number up < tree.number (up ++ [index]) := by
  induction up generalizing tree with
  | nil => simp only [number, List.nil_append]; omega
  | cons first up ih =>
    obtain ⟨child, there, below⟩ := exists_child found
    have later := ih below
    rw [List.cons_append, number_cons there, number_cons there]
    omega

theorem node?_append (tree : Tree) (up path : List Nat) :
    tree.node? (up ++ path) = (tree.node? up).bind (node? · path) := by
  induction up generalizing tree with
  | nil => rfl
  | cons first up ih =>
    rw [List.cons_append, node?, node?, Option.bind_assoc]
    simp only [ih]

-- Every place but the first is that of a child, behind the place of its parent.
theorem exists_parent {place : Nat} (positive : 0 < place) (bounded : place < tree.size) :
    ∃ up index, tree.paths[place]? = some (up ++ [index]) ∧
      tree.paths[tree.number up]? = some up ∧ tree.number up < place := by
  rw [← length_paths] at bounded
  obtain ⟨numbered, node, leads⟩ := number_of_getElem?_paths (List.getElem?_eq_getElem bounded)
  rcases List.eq_nil_or_concat tree.paths[place] with root | ⟨up, index, below⟩
  · rw [root, number] at numbered
    omega
  · rw [List.concat_eq_append] at below
    rw [below] at numbered leads
    have step := leads
    rw [node?_append] at step
    obtain ⟨parent, found, _⟩ := Option.bind_eq_some_iff.mp step
    refine ⟨up, index, ?_, getElem?_paths_number found, ?_⟩
    · rw [List.getElem?_eq_getElem bounded, below]
    · rw [← numbered]
      exact number_lt_number leads

theorem throughout_iff {property : Tree → Prop} :
    tree.Throughout property ↔
      property tree ∧ ∀ child ∈ tree.children, child.Throughout property := by
  constructor
  · intro holds
    refine ⟨holds [] tree rfl, ?_⟩
    intro child member path node found
    obtain ⟨index, there⟩ := List.mem_iff_getElem?.mp member
    exact holds (index :: path) node (by rw [node?_cons there, found])
  · rintro ⟨here, below⟩ path node found
    cases path with
    | nil => cases found; exact here
    | cons index path =>
      obtain ⟨child, there, within⟩ := exists_child found
      exact below child (List.mem_of_getElem? there) path node within

theorem throughout_iff_paths {property : Tree → Prop} :
    tree.Throughout property ↔ ∀ path ∈ tree.paths, ∀ node ∈ tree.node? path, property node := by
  constructor
  · intro holds path _ node found
    exact holds path node found
  · intro holds path node found
    exact holds path (List.mem_of_getElem? (getElem?_paths_number found)) node found

instance (property : Tree → Prop) [DecidablePred property] (tree : Tree) :
    Decidable (tree.Throughout property) :=
  decidable_of_iff _ throughout_iff_paths.symm

theorem alike_iff {left right : Tree} :
    Alike left right ↔ left.label = right.label ∧ AlikeAll left.children right.children := by
  constructor
  · intro alike
    exact ⟨Option.some.inj (alike []), fun index path => alike (index :: path)⟩
  · rintro ⟨same, below⟩ path
    cases path with
    | nil => exact congrArg some same
    | cons index path => exact below index path

theorem alikeAll_nil : AlikeAll [] [] := fun _ _ => rfl

theorem alikeAll_cons {left right : Tree} {lefts rights : List Tree} :
    AlikeAll (left :: lefts) (right :: rights) ↔ Alike left right ∧ AlikeAll lefts rights := by
  constructor
  · intro alike
    exact ⟨fun path => alike 0 path, fun index path => alike (index + 1) path⟩
  · rintro ⟨here, beside⟩ index path
    cases index with
    | zero => exact here path
    | succ index => exact beside index path

-- Forests that are alike have equally many trees, so the two are taken apart together.
theorem AlikeAll.cases {left : Tree} {lefts others : List Tree} (alike : AlikeAll (left :: lefts) others) :
    ∃ right rights, others = right :: rights := by
  cases others with
  | nil => cases alike 0 []
  | cons right rights => exact ⟨right, rights, rfl⟩

theorem AlikeAll.nil_eq {others : List Tree} (alike : AlikeAll [] others) : others = [] := by
  cases others with
  | nil => rfl
  | cons right rights => cases alike 0 []

theorem AlikeAll.sizeAll_eq {lefts rights : List Tree} (alike : AlikeAll lefts rights) :
    sizeAll lefts = sizeAll rights := by
  induction lefts using forest_induction generalizing rights with
  | nil => rw [alike.nil_eq]
  | cons kind value children rest below beside =>
    obtain ⟨right, others, rfl⟩ := alike.cases
    obtain ⟨here, later⟩ := alikeAll_cons.mp alike
    rw [sizeAll, sizeAll, size_eq, size_eq, below (alike_iff.mp here).2, beside later]

theorem Alike.size_eq {left right : Tree} (alike : Alike left right) : left.size = right.size := by
  rw [Tree.size_eq, Tree.size_eq, (alike_iff.mp alike).2.sizeAll_eq]

end Arbor.Tree
