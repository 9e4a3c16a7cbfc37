import Arbor.Proofs.Graph.Faithful

-- A drawing whose names are depths. Nodes of the same level share their name and no edge ends at a
-- declared one, yet the text still tells how many nodes each level has and which tree was drawn.
namespace Arbor.Graph

-- Labels are written as they are, so a line feed in one would break its line.
def NoLineFeed (node : Tree) : Prop := '\n' ∉ node.kind.toList ∧ '\n' ∉ node.value.toList

instance : DecidablePred NoLineFeed := fun node =>
  inferInstanceAs (Decidable ('\n' ∉ node.kind.toList ∧ '\n' ∉ node.value.toList))

variable {tree : Tree}

theorem lineFeed_not_mem_label (free : NoLineFeed tree) : '\n' ∉ tree.label.toList := by
  simp [Tree.label, free.1, free.2]

theorem arrival_depth (tree : Tree) (path : List Nat) (number : Nat) :
    arrival .depth tree 0 0 path number =
      [.connect (.numbered path.dropLast.length)
          (.slot path.dropLast.length (path.getLastD 0)),
        .declare (.numbered path.length) ((tree.node? path).getD tree).label] := by
  simp [arrival, Scheme.edge, Scheme.declaration]

theorem declarations_arrivals (tree : Tree) (number : Nat) (paths : List (List Nat)) :
    declarations (arrivals .depth tree 0 0 number paths) =
      paths.map fun path => (.numbered path.length, ((tree.node? path).getD tree).label) := by
  induction paths generalizing number with
  | nil => rfl
  | cons path paths ih => simp [arrivals_cons, arrival_depth, declarations, ih]

theorem edges_arrivals (tree : Tree) (number : Nat) (paths : List (List Nat)) :
    edges (arrivals .depth tree 0 0 number paths) =
      paths.map fun path => (.numbered path.dropLast.length,
        .slot path.dropLast.length (path.getLastD 0)) := by
  induction paths generalizing number with
  | nil => rfl
  | cons path paths ih => simp [arrivals_cons, arrival_depth, edges, ih]

theorem statements_depth (tree : Tree) :
    statements .depth tree = .declare (.numbered 0) tree.label ::
      arrivals .depth tree 0 0 1 (Tree.pathsAll 0 tree.children) :=
  statements_eq_arrivals .depth tree

-- Each node is declared under the length of the path to it.
theorem declarations_depth (tree : Tree) :
    declarations (statements .depth tree) =
      tree.paths.map fun path => (.numbered path.length, ((tree.node? path).getD tree).label) := by
  rw [statements_depth, declarations, declarations_arrivals, Tree.paths_eq]
  rfl

theorem edges_depth (tree : Tree) :
    edges (statements .depth tree) =
      (Tree.pathsAll 0 tree.children).map fun path => (.numbered path.dropLast.length,
        .slot path.dropLast.length (path.getLastD 0)) := by
  rw [statements_depth, edges, edges_arrivals]

theorem count_declared (tree : Tree) (depth : Nat) :
    ((declarations (statements .depth tree)).map Prod.fst).count (.numbered depth) =
      tree.paths.countP fun path => path.length = depth := by
  rw [declarations_depth, List.map_map, List.count_eq_countP, List.countP_map]
  apply List.countP_congr
  intro path _
  simp

-- The root is the only node without an edge into it, and it is on no level below another.
theorem count_leaving (tree : Tree) (depth : Nat) :
    ((edges (statements .depth tree)).map Prod.fst).count (.numbered depth) =
      tree.paths.countP fun path => path.length = depth + 1 := by
  rw [edges_depth, List.map_map, List.count_eq_countP, List.countP_map, Tree.paths_eq,
    List.countP_cons_of_neg (by simp)]
  apply List.countP_congr
  intro path member
  have longer := List.length_pos_iff.mpr (Tree.exists_of_mem_pathsAll member).1
  simp only [Function.comp_apply, List.length_dropLast, beq_iff_eq, Name.numbered.injEq,
    decide_eq_true_eq]
  omega

theorem Name.text_inj {left right : Name} (same : left.text = right.text) : left = right := by
  have read := readName?_text left
  rw [same, readName?_text right] at read
  exact (Option.some.inj read).symm

theorem target_not_declared {source target name : Name} {label : String}
    (edge : (source, target) ∈ edges (statements .depth tree))
    (declared : (name, label) ∈ declarations (statements .depth tree)) :
    target.text ≠ name.text := by
  rw [edges_depth] at edge
  rw [declarations_depth] at declared
  obtain ⟨path, _, leaves⟩ := List.mem_map.mp edge
  obtain ⟨place, _, stands⟩ := List.mem_map.mp declared
  cases leaves
  cases stands
  intro same
  cases Name.text_inj same

theorem oneLine_depth (free : tree.Throughout NoLineFeed) :
    ∀ statement ∈ statements .depth tree, statement.OneLine := by
  apply oneLine_of_labels
  rw [declarations_depth, List.map_map]
  intro label member
  obtain ⟨path, listed, rfl⟩ := List.mem_map.mp member
  obtain ⟨place, there⟩ := List.mem_iff_getElem?.mp listed
  obtain ⟨_, node, leads⟩ := Tree.number_of_getElem?_paths there
  have here := lineFeed_not_mem_label (free path node leads)
  simpa [leads] using here

-- The text of a drawing whose names are depths, cut at line feeds: how many lines there are, how many
-- nodes they declare and leave on each level, and that no edge ends at a declared name. The tree is
-- still determined up to likeness.
theorem render_depth_faithful (free : tree.Throughout NoLineFeed) :
    ∃ (raw : List (List Char)) (body : List Statement),
      Text.splitAt '\n' (render .depth tree).toList =
        opening.toList :: raw ++ [closing.toList, []] ∧
      (opening.toList :: raw ++ [closing.toList]).length = 2 * tree.size + 1 ∧
      raw.map readStatement? = body.map some ∧
      (∀ depth, ((declarations body).map Prod.fst).count (.numbered depth) =
        tree.paths.countP fun path => path.length = depth) ∧
      (∀ depth, ((edges body).map Prod.fst).count (.numbered depth) =
        tree.paths.countP fun path => path.length = depth + 1) ∧
      (∀ source target, (source, target) ∈ edges body →
        (∃ depth index, source = .numbered depth ∧ target = .slot depth index) ∧
        ∀ name label, (name, label) ∈ declarations body → target.text ≠ name.text) ∧
      ∀ other : Tree, other.Throughout NoLineFeed →
        (render .depth tree = render .depth other ↔ tree.Alike other) := by
  refine ⟨_, statements .depth tree, splitAt_render (oneLine_depth free), ?_, map_readStatement? _,
    count_declared tree, count_leaving tree, ?_, ?_⟩
  · have counted := length_statements .depth tree
    simp only [List.length_append, List.length_cons, List.length_map, List.length_nil]
    omega
  · intro source target edge
    refine ⟨?_, fun name label => target_not_declared edge⟩
    rw [edges_depth] at edge
    obtain ⟨path, _, leaves⟩ := List.mem_map.mp edge
    cases leaves
    exact ⟨_, _, rfl, rfl⟩
  · intro other otherFree
    exact render_eq_iff (oneLine_depth free) (oneLine_depth otherFree)

-- The same declarations on every level, but the node below stands under the other sibling.
theorem render_depth_faithful_siblings :
    Tree.Throughout NoLineFeed ⟨"a", "", [⟨"b", "", [⟨"c", "\"\\", []⟩]⟩, ⟨"b", "", []⟩]⟩ ∧
    Tree.Throughout NoLineFeed ⟨"a", "", [⟨"b", "", []⟩, ⟨"b", "", [⟨"c", "\"\\", []⟩]⟩]⟩ ∧
    render .depth ⟨"a", "", [⟨"b", "", [⟨"c", "\"\\", []⟩]⟩, ⟨"b", "", []⟩]⟩ ≠
      render .depth ⟨"a", "", [⟨"b", "", []⟩, ⟨"b", "", [⟨"c", "\"\\", []⟩]⟩]⟩ := by
  have free : Tree.Throughout NoLineFeed
      ⟨"a", "", [⟨"b", "", [⟨"c", "\"\\", []⟩]⟩, ⟨"b", "", []⟩]⟩ := by decide
  have otherFree : Tree.Throughout NoLineFeed
      ⟨"a", "", [⟨"b", "", []⟩, ⟨"b", "", [⟨"c", "\"\\", []⟩]⟩]⟩ := by decide
  refine ⟨free, otherFree, ?_⟩
  intro same
  obtain ⟨_, _, _, _, _, _, _, _, determined⟩ := render_depth_faithful free
  have alike := (determined _ otherFree).mp same
  cases alike [0, 0]

end Arbor.Graph
