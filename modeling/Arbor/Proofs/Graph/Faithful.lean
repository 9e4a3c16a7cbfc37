import Arbor.Proofs.Graph.Likeness
import Arbor.Proofs.Graph.Lines
import Arbor.Proofs.Graph.Visits

-- A drawing with pre-order numbers describes its tree: what is read off its text are the nodes in
-- order, each with its label and behind an edge from its parent, and nothing else.
namespace Arbor.Graph

-- The declarations of a drawing in the order of its lines: names, and labels as they are written.
def declarations : List Statement → List (Name × String)
  | [] => []
  | .declare name label :: rest => (name, label) :: declarations rest
  | .connect _ _ :: rest => declarations rest

-- The edges of a drawing in the order of its lines: sources and targets.
def edges : List Statement → List (Name × Name)
  | [] => []
  | .declare _ _ :: rest => edges rest
  | .connect source target :: rest => (source, target) :: edges rest

variable {tree node : Tree} {path : List Nat} {body : List Statement}

-- Only labels can spread a statement over several lines.
theorem oneLine_of_labels (free : ∀ label ∈ (declarations body).map Prod.snd, '\n' ∉ label.toList) :
    ∀ statement ∈ body, statement.OneLine := by
  induction body with
  | nil => intro statement member; cases member
  | cons first rest ih =>
    cases first with
    | declare name label =>
      obtain ⟨here, later⟩ := List.forall_mem_cons.mp free
      exact List.forall_mem_cons.mpr ⟨here, ih later⟩
    | connect source target => exact List.forall_mem_cons.mpr ⟨trivial, ih free⟩

theorem arrival_preOrder (tree : Tree) (path : List Nat) (number : Nat) :
    arrival .preOrder tree 0 0 path number =
      [.connect (.numbered (tree.number path.dropLast)) (.numbered number),
        .declare (.numbered number) (escape ((tree.node? path).getD tree).label)] := by
  simp [arrival, Scheme.edge, Scheme.declaration]

theorem declared_arrivals (tree : Tree) (number : Nat) (paths : List (List Nat)) :
    (declarations (arrivals .preOrder tree 0 0 number paths)).map Prod.fst =
      (List.range' number paths.length).map .numbered := by
  induction paths generalizing number with
  | nil => rfl
  | cons path paths ih =>
    simp [arrivals_cons, arrival_preOrder, declarations, ih, List.range'_succ]

theorem labels_arrivals (tree : Tree) (number : Nat) (paths : List (List Nat)) :
    (declarations (arrivals .preOrder tree 0 0 number paths)).map Prod.snd =
      paths.map fun path => escape ((tree.node? path).getD tree).label := by
  induction paths generalizing number with
  | nil => rfl
  | cons path paths ih => simp [arrivals_cons, arrival_preOrder, declarations, ih]

theorem targets_arrivals (tree : Tree) (number : Nat) (paths : List (List Nat)) :
    (edges (arrivals .preOrder tree 0 0 number paths)).map Prod.snd =
      (List.range' number paths.length).map .numbered := by
  induction paths generalizing number with
  | nil => rfl
  | cons path paths ih => simp [arrivals_cons, arrival_preOrder, edges, ih, List.range'_succ]

theorem statements_preOrder (tree : Tree) :
    statements .preOrder tree = .declare (.numbered 0) (escape tree.label) ::
      arrivals .preOrder tree 0 0 1 (Tree.pathsAll 0 tree.children) :=
  statements_eq_arrivals .preOrder tree

theorem declared_preOrder (tree : Tree) :
    (declarations (statements .preOrder tree)).map Prod.fst =
      (List.range tree.size).map .numbered := by
  rw [statements_preOrder, declarations, List.map_cons, declared_arrivals, Tree.length_pathsAll,
    Tree.size_eq, List.range_eq_range', Nat.add_comm, List.range'_succ]
  rfl

theorem labels_preOrder (tree : Tree) :
    (declarations (statements .preOrder tree)).map Prod.snd =
      tree.paths.map fun path => escape ((tree.node? path).getD tree).label := by
  rw [statements_preOrder, declarations, List.map_cons, labels_arrivals, Tree.paths_eq]
  rfl

theorem oneLine_preOrder (tree : Tree) :
    ∀ statement ∈ statements .preOrder tree, statement.OneLine := by
  apply oneLine_of_labels
  rw [labels_preOrder]
  intro label member
  obtain ⟨path, _, rfl⟩ := List.mem_map.mp member
  exact lineFeed_not_mem_escape _

theorem targets_preOrder (tree : Tree) :
    (edges (statements .preOrder tree)).map Prod.snd =
      (List.range' 1 (tree.size - 1)).map .numbered := by
  rw [statements_preOrder, edges, targets_arrivals, Tree.length_pathsAll, Tree.size_eq,
    Nat.add_sub_cancel_left]

theorem length_preOrder (tree : Tree) :
    (statements .preOrder tree).length + 1 = 2 * tree.size :=
  length_statements .preOrder tree

-- A node below the root stands on two lines, its edge and its declaration, right behind the lines
-- of the nodes with smaller numbers.
theorem exists_arrival {number : Nat} (listed : tree.paths[number + 1]? = some path)
    (leads : tree.node? path = some node) :
    ∃ before after, statements .preOrder tree =
        before ++ .connect (.numbered (tree.number path.dropLast)) (.numbered (number + 1)) ::
          .declare (.numbered (number + 1)) (escape node.label) :: after ∧
      (declarations before).map Prod.fst = (List.range (number + 1)).map .numbered := by
  rw [Tree.paths_eq, List.getElem?_cons_succ] at listed
  obtain ⟨inside, rfl⟩ := List.getElem?_eq_some_iff.mp listed
  let earlier := (Tree.pathsAll 0 tree.children).take number
  let later := (Tree.pathsAll 0 tree.children).drop (number + 1)
  have parts : Tree.pathsAll 0 tree.children =
      earlier ++ (Tree.pathsAll 0 tree.children)[number] :: later := by
    rw [← List.drop_eq_getElem_cons inside, List.take_append_drop]
  have taken : earlier.length = number := List.length_take_of_le (Nat.le_of_lt inside)
  refine ⟨.declare (.numbered 0) (escape tree.label) :: arrivals .preOrder tree 0 0 1 earlier,
    arrivals .preOrder tree 0 0 (number + 1 + 1) later, ?_, ?_⟩
  · have written := statements_preOrder tree
    rw [parts, arrivals_append, arrivals_cons, arrival_preOrder, leads, taken,
      Nat.add_comm 1 number] at written
    exact written
  · rw [declarations, List.map_cons, declared_arrivals, taken, List.range_eq_range',
      List.range'_succ]
    rfl

-- Undoing the escapes of the k-th declaration gives the label of the k-th node.
theorem exists_label {number : Nat} (bounded : number < tree.size) :
    ∃ path node quoted, tree.paths[number]? = some path ∧ tree.node? path = some node ∧
      ((declarations (statements .preOrder tree)).map Prod.snd)[number]? = some quoted ∧
      unescape quoted.toList = node.label.toList := by
  rw [← Tree.length_paths] at bounded
  have listed := List.getElem?_eq_getElem bounded
  obtain ⟨_, node, leads⟩ := Tree.number_of_getElem?_paths listed
  refine ⟨_, node, escape node.label, listed, leads, ?_, ?_⟩
  · rw [labels_preOrder, List.getElem?_map, listed, Option.map_some, leads, Option.getD_some]
  · exact unescape_escape node.label

-- Where no statement is broken over lines, the text of a drawing shows the tree up to likeness.
theorem render_eq_iff {scheme : Scheme} {left right : Tree}
    (oneLine : ∀ statement ∈ statements scheme left, statement.OneLine)
    (otherOneLine : ∀ statement ∈ statements scheme right, statement.OneLine) :
    render scheme left = render scheme right ↔ left.Alike right := by
  rw [← statements_eq_iff scheme]
  constructor
  · exact statements_of_render oneLine otherOneLine
  · intro same
    rw [render_eq, render_eq, same]

theorem render_preOrder_eq_iff (left right : Tree) :
    render .preOrder left = render .preOrder right ↔ left.Alike right :=
  render_eq_iff (oneLine_preOrder left) (oneLine_preOrder right)

-- The text of a drawing with pre-order numbers, cut at line feeds: how many lines there are, which
-- statements they hold, where the edge into each node stands and where it comes from, and which
-- label each declaration spells. So two trees have the same text only if they are alike.
theorem render_preOrder_faithful (tree : Tree) :
    ∃ (raw : List (List Char)) (body : List Statement),
      Text.splitAt '\n' (render .preOrder tree).toList =
        opening.toList :: raw ++ [closing.toList, []] ∧
      (opening.toList :: raw ++ [closing.toList]).length = 2 * tree.size + 1 ∧
      raw.map readStatement? = body.map some ∧
      (declarations body).map Prod.fst = (List.range tree.size).map .numbered ∧
      (edges body).map Prod.snd = (List.range' 1 (tree.size - 1)).map .numbered ∧
      (∀ k, 0 < k → k < tree.size → ∃ up index parent quoted before after,
        tree.paths[k]? = some (up ++ [index]) ∧ tree.paths[parent]? = some up ∧ parent < k ∧
        body = before ++ .connect (.numbered parent) (.numbered k) ::
          .declare (.numbered k) quoted :: after ∧
        (declarations before).map Prod.fst = (List.range k).map .numbered) ∧
      (∀ k, k < tree.size → ∃ path node quoted,
        tree.paths[k]? = some path ∧ tree.node? path = some node ∧
        ((declarations body).map Prod.snd)[k]? = some quoted ∧
        unescape quoted.toList = node.label.toList) ∧
      ∀ other, render .preOrder tree = render .preOrder other ↔ tree.Alike other := by
  refine ⟨_, statements .preOrder tree, splitAt_render (oneLine_preOrder tree), ?_,
    map_readStatement? _, declared_preOrder tree, targets_preOrder tree, ?_,
    fun k bounded => exists_label bounded, render_preOrder_eq_iff tree⟩
  · have counted := length_preOrder tree
    simp only [List.length_append, List.length_cons, List.length_map, List.length_nil]
    omega
  · intro k positive bounded
    obtain ⟨up, index, listed, above, smaller⟩ := Tree.exists_parent positive bounded
    obtain ⟨_, node, leads⟩ := Tree.number_of_getElem?_paths listed
    obtain ⟨place, rfl⟩ := Nat.exists_eq_succ_of_ne_zero (Nat.ne_of_gt positive)
    obtain ⟨before, after, written, declared⟩ := exists_arrival listed leads
    rw [List.dropLast_concat] at written
    exact ⟨up, index, _, _, before, after, listed, above, smaller, written, declared⟩

end Arbor.Graph
