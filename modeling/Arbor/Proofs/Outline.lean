import Arbor.Outline
import Arbor.Proofs.Sink
import Arbor.Proofs.Text.Split
import Arbor.Proofs.Tree.Position

-- The outline of a tree by plain recursion, and the way back: lines give entries, and the depths of
-- entries give the shape of the tree.
namespace Arbor.Tree

mutual

-- The entries of a tree whose root stands at this depth.
def listing (depth : Nat) : Tree → List Entry
  | ⟨kind, value, children⟩ => ⟨depth, kind, value⟩ :: listingAll (depth + 1) children

def listingAll (depth : Nat) : List Tree → List Entry
  | [] => []
  | tree :: rest => listing depth tree ++ listingAll depth rest

end

-- The trees whose roots stand at this depth. What is deeper belongs to the root before it.
def grow (depth : Nat) : List Entry → List Tree
  | [] => []
  | entry :: rest =>
    ⟨entry.kind, entry.value, grow (depth + 1) (rest.takeWhile (depth < ·.depth))⟩ ::
      grow depth (rest.dropWhile (depth < ·.depth))
termination_by entries => entries.length
decreasing_by
  · exact Nat.lt_succ_of_le (List.takeWhile_sublist _).length_le
  · exact Nat.lt_succ_of_le (List.dropWhile_sublist _).length_le

theorem listing_eq (depth : Nat) (tree : Tree) :
    listing depth tree =
      ⟨depth, tree.kind, tree.value⟩ :: listingAll (depth + 1) tree.children := by
  cases tree
  rw [listing]

theorem flatMap_listing (depth : Nat) (trees : List Tree) :
    trees.flatMap (listing depth) = listingAll depth trees := by
  induction trees with
  | nil => rfl
  | cons tree rest ih => rw [List.flatMap_cons, ih, listingAll]

-- The work list holds the nodes in the order in which they are listed: the children of a node come
-- before everything that was pending with it.
theorem entriesFrom_eq (done : List Entry) (pending : List (Nat × Tree)) :
    entriesFrom done pending =
      done.reverse ++ pending.flatMap fun place => listing place.1 place.2 := by
  fun_induction entriesFrom done pending with
  | case1 done => simp
  | case2 done depth tree pending ih =>
    simp only [List.map_subtype, List.unattach_attach] at ih
    rw [ih, List.flatMap_append, List.flatMap_map, flatMap_listing, List.flatMap_cons, listing_eq]
    simp

theorem entries_eq (tree : Tree) : tree.entries = listingAll 0 [tree] := by
  rw [entries, entriesFrom_eq, List.flatMap_singleton, listingAll, listingAll, List.append_nil]
  rfl

theorem depth_le_of_mem_listingAll {depth : Nat} {entry : Entry} {trees : List Tree}
    (member : entry ∈ listingAll depth trees) : depth ≤ entry.depth := by
  induction trees using forest_induction generalizing depth with
  | nil => cases member
  | cons kind value children rest below beside =>
    rw [listingAll, listing, List.cons_append, List.mem_cons, List.mem_append] at member
    rcases member with rfl | inside | after
    · exact Nat.le_refl depth
    · exact Nat.le_of_succ_le (below inside)
    · exact beside after

-- The next sibling ends what is below a node.
theorem takeWhile_listingAll (depth : Nat) (children rest : List Tree) :
    (listingAll (depth + 1) children ++ listingAll depth rest).takeWhile (depth < ·.depth) =
        listingAll (depth + 1) children ∧
      (listingAll (depth + 1) children ++ listingAll depth rest).dropWhile (depth < ·.depth) =
        listingAll depth rest := by
  have deeper : ∀ entry ∈ listingAll (depth + 1) children, decide (depth < entry.depth) = true := by
    intro entry member
    exact decide_eq_true (depth_le_of_mem_listingAll member)
  rw [List.takeWhile_append_of_pos deeper, List.dropWhile_append_of_pos deeper]
  cases rest with
  | nil => simp [listingAll]
  | cons tree rest => simp [listingAll, listing_eq]

theorem grow_listingAll (depth : Nat) (trees : List Tree) :
    grow depth (listingAll depth trees) = trees := by
  induction trees using forest_induction generalizing depth with
  | nil => rw [listingAll, grow]
  | cons kind value children rest below beside =>
    obtain ⟨taken, left⟩ := takeWhile_listingAll depth children rest
    rw [listingAll, listing, List.cons_append, grow, taken, left, below, beside]

theorem listing_inj {depth : Nat} {left right : Tree}
    (same : listing depth left = listing depth right) : left = right := by
  have grown := grow_listingAll depth [left]
  rw [listingAll, same, ← listingAll, grow_listingAll] at grown
  exact (List.singleton_inj.mp grown).symm

end Arbor.Tree

namespace Arbor.Outline

mutual

-- The lines of a tree whose root stands at this depth: its own, then those of each child.
def descend (depth : Nat) : Tree → List String
  | ⟨kind, value, children⟩ =>
    (String.join (List.replicate depth "  ") ++ kind ++
      (if value = "" then "" else " " ++ value) ++ "\n") :: descendAll (depth + 1) children

def descendAll (depth : Nat) : List Tree → List String
  | [] => []
  | tree :: rest => descend depth tree ++ descendAll depth rest

end

theorem join_replicate (depth : Nat) : String.join (List.replicate depth "  ") = Text.indent depth := by
  induction depth with
  | zero => rfl
  | succ depth ih =>
    rw [List.replicate_succ, String.join_cons, ih, Text.indent, Text.indent, Nat.mul_succ]
    apply String.toList_inj.mp
    simp [List.replicate_succ]

theorem map_line_listingAll (depth : Nat) (trees : List Tree) :
    (Tree.listingAll depth trees).map line = descendAll depth trees := by
  induction trees using Tree.forest_induction generalizing depth with
  | nil => rfl
  | cons kind value children rest below beside =>
    rw [Tree.listingAll, Tree.listing, List.cons_append, List.map_cons, List.map_append, below,
      beside, descendAll, descend, join_replicate]
    rfl

def lines (tree : Tree) : List String := tree.entries.map line

-- The children of a node are written before everything that was pending with it.
theorem sends_writeFrom (pending : List (Nat × Tree)) :
    Sink.Sends (writeFrom · pending)
      (String.join ((pending.flatMap fun place => Tree.listing place.1 place.2).map line)) := by
  match pending with
  | [] => exact Sink.sends_nothing.of_eq fun sink => by rw [writeFrom]
  | (depth, tree) :: pending =>
    have sent := (Sink.sends_put (line ⟨depth, tree.kind, tree.value⟩)).append
      (sends_writeFrom (tree.children.map (depth + 1, ·) ++ pending))
    rw [List.flatMap_append, List.flatMap_map, Tree.flatMap_listing] at sent
    rw [List.flatMap_cons, Tree.listing_eq, List.cons_append, List.map_cons, String.join_cons]
    exact sent.of_eq fun sink => by
      rw [writeFrom]
      rfl
termination_by Tree.sizeAll (pending.map Prod.snd)
decreasing_by simp [Tree.sizeAll, Tree.size_eq, Function.comp_def]

theorem sends_write (tree : Tree) : Sink.Sends (write tree) (String.join (lines tree)) := by
  rw [lines, Tree.entries, Tree.entriesFrom_eq, List.reverse_nil, List.nil_append]
  exact sends_writeFrom [(0, tree)]

theorem render_eq (tree : Tree) : render tree = String.join (lines tree) :=
  (sends_write tree).text_buffer

theorem lines_eq_descend (tree : Tree) : lines tree = descend 0 tree := by
  rw [lines, Tree.entries_eq, map_line_listingAll, descendAll, descendAll, List.append_nil]

-- A kind that shows where it begins and ends, on one line with its value.
def Plain (kind value : String) : Prop :=
  kind ≠ "" ∧ ' ' ∉ kind.toList ∧ '\n' ∉ kind.toList ∧ '\n' ∉ value.toList

instance (kind value : String) : Decidable (Plain kind value) :=
  inferInstanceAs (Decidable (_ ∧ _ ∧ _ ∧ _))

def Legible (tree : Tree) : Prop := tree.Throughout fun node => Plain node.kind node.value

instance (tree : Tree) : Decidable (Legible tree) :=
  inferInstanceAs (Decidable (tree.Throughout fun node => Plain node.kind node.value))

-- The entry on a line. Spaces at the front are indentation, and the space behind the kind is not
-- part of the value.
def readEntry (line : List Char) : Tree.Entry :=
  let text := line.dropWhile (· = ' ')
  ⟨(line.takeWhile (· = ' ')).length / 2, String.ofList (text.takeWhile (· ≠ ' ')),
    String.ofList ((text.dropWhile (· ≠ ' ')).drop 1)⟩

-- The trees of an outline. Nothing stands behind the last line feed.
def read (text : String) : List Tree :=
  Tree.grow 0 ((Text.splitAt '\n' text.toList).dropLast.map readEntry)

-- A node's line without its line feed.
def bare (entry : Tree.Entry) : List Char :=
  List.replicate (2 * entry.depth) ' ' ++
    (entry.kind.toList ++ if entry.value = "" then [] else ' ' :: entry.value.toList)

theorem toList_line (entry : Tree.Entry) : (line entry).toList = bare entry ++ ['\n'] := by
  rw [line, bare, Text.indent]
  split <;> simp

variable {entry : Tree.Entry} {tree : Tree}

theorem lineFeed_not_mem_bare (plain : Plain entry.kind entry.value) : '\n' ∉ bare entry := by
  obtain ⟨_, _, inKind, inValue⟩ := plain
  rw [bare]
  split <;> simp [inKind, inValue]

-- The kind begins with no space, so the indentation ends before it.
theorem span_indent {text : List Char} (nonempty : text ≠ []) (free : ' ' ∉ text) (width : Nat)
    (rest : List Char) :
    (List.replicate width ' ' ++ (text ++ rest)).takeWhile (· = ' ') = List.replicate width ' ' ∧
      (List.replicate width ' ' ++ (text ++ rest)).dropWhile (· = ' ') = text ++ rest := by
  have spaces : ∀ c ∈ List.replicate width ' ', decide (c = ' ') = true := by
    intro c member
    exact decide_eq_true (List.eq_of_mem_replicate member)
  obtain ⟨c, tail, rfl⟩ := List.exists_cons_of_ne_nil nonempty
  have dark : c ≠ ' ' := fun same => free (same ▸ List.mem_cons_self)
  rw [List.takeWhile_append_of_pos spaces, List.dropWhile_append_of_pos spaces]
  simp [dark]

-- The kind ends at the first space, or with the line.
theorem span_kind {text : List Char} (free : ' ' ∉ text) (value : String) :
    let rest := if value = "" then [] else ' ' :: value.toList
    (text ++ rest).takeWhile (· ≠ ' ') = text ∧
      ((text ++ rest).dropWhile (· ≠ ' ')).drop 1 = value.toList := by
  have dark : ∀ c ∈ text, decide (c ≠ ' ') = true := by
    intro c member
    exact decide_eq_true fun same => free (same ▸ member)
  intro rest
  rw [List.takeWhile_append_of_pos dark, List.dropWhile_append_of_pos dark]
  by_cases empty : value = ""
  · simp [rest, empty]
  · simp [rest, empty]

theorem readEntry_bare (plain : Plain entry.kind entry.value) : readEntry (bare entry) = entry := by
  obtain ⟨nonempty, free, _, _⟩ := plain
  have letters : entry.kind.toList ≠ [] := fun same => nonempty (String.toList_eq_nil_iff.mp same)
  obtain ⟨indented, text⟩ := span_indent letters free (2 * entry.depth)
    (if entry.value = "" then [] else ' ' :: entry.value.toList)
  obtain ⟨kind, value⟩ := span_kind free entry.value
  simp only [readEntry, bare, indented, text, kind, value, List.length_replicate,
    String.ofList_toList, Nat.mul_div_right _ (Nat.zero_lt_two)]

theorem plain_of_mem_listingAll {depth : Nat} {trees : List Tree}
    (legible : ∀ tree ∈ trees, Legible tree)
    (member : entry ∈ Tree.listingAll depth trees) : Plain entry.kind entry.value := by
  induction trees using Tree.forest_induction generalizing depth with
  | nil => cases member
  | cons kind value children rest below beside =>
    obtain ⟨first, others⟩ := List.forall_mem_cons.mp legible
    obtain ⟨here, inner⟩ := Tree.throughout_iff.mp first
    rw [Tree.listingAll, Tree.listing, List.cons_append, List.mem_cons, List.mem_append] at member
    rcases member with rfl | inside | after
    · exact here
    · exact below inner inside
    · exact beside others after

theorem read_render (legible : Legible tree) : read (render tree) = [tree] := by
  have plain : ∀ entry ∈ tree.entries, Plain entry.kind entry.value := by
    intro entry member
    rw [Tree.entries_eq] at member
    exact plain_of_mem_listingAll (List.forall_mem_singleton.mpr legible) member
  have joined : (render tree).toList = (tree.entries.map bare).flatMap (· ++ ['\n']) := by
    simp [render_eq, lines, String.toList_join, List.flatMap_map, toList_line]
  have free : ∀ line ∈ tree.entries.map bare, '\n' ∉ line := by
    intro line member
    obtain ⟨entry, listed, rfl⟩ := List.mem_map.mp member
    exact lineFeed_not_mem_bare (plain entry listed)
  have back : (tree.entries.map bare).map readEntry = tree.entries := by
    have same : ∀ entry ∈ tree.entries, (readEntry ∘ bare) entry = id entry :=
      fun entry listed => readEntry_bare (plain entry listed)
    rw [List.map_map, List.map_congr_left same, List.map_id]
  rw [read, joined, Text.splitAt_lines free, List.dropLast_concat, back, Tree.entries_eq,
    Tree.grow_listingAll]

-- An outline lists the nodes in the order of the recursion, one line for each, into whatever sink it
-- is written. Where kinds show their ends and no line is broken, it is read back, so that no two trees
-- have the same outline.
theorem render_readable :
    (∀ tree, lines tree = descend 0 tree ∧ Sink.Sends (write tree) (String.join (lines tree)) ∧
      render tree = String.join (descend 0 tree)) ∧
    (∀ tree, Legible tree → read (render tree) = [tree]) ∧
    ∀ left right, Legible left → Legible right → (render left = render right ↔ left = right) := by
  refine ⟨?_, fun tree => read_render, ?_⟩
  · intro tree
    rw [render_eq, ← lines_eq_descend]
    exact ⟨rfl, sends_write tree, rfl⟩
  · intro left right legible otherLegible
    constructor
    · intro same
      have back := read_render legible
      rw [same, read_render otherLegible] at back
      exact (List.singleton_inj.mp back).symm
    · intro same
      rw [same]

-- A value that is one space, on the line of the root or on the line below.
theorem render_readable_space :
    Legible ⟨"a", " ", [⟨"b", "", []⟩]⟩ ∧ Legible ⟨"a", "", [⟨"b", " ", []⟩]⟩ ∧
    read (render ⟨"a", " ", [⟨"b", "", []⟩]⟩) = [⟨"a", " ", [⟨"b", "", []⟩]⟩] ∧
    render ⟨"a", " ", [⟨"b", "", []⟩]⟩ ≠ render ⟨"a", "", [⟨"b", " ", []⟩]⟩ := by
  have legible : Legible ⟨"a", " ", [⟨"b", "", []⟩]⟩ := by decide
  have otherLegible : Legible ⟨"a", "", [⟨"b", " ", []⟩]⟩ := by decide
  obtain ⟨_, readable, determined⟩ := render_readable
  refine ⟨legible, otherLegible, readable _ legible, ?_⟩
  intro same
  have values := congrArg Tree.value ((determined _ _ legible otherLegible).mp same)
  exact absurd values (by decide)

end Arbor.Outline
