import Arbor.Graph.Drawing
import Arbor.Proofs.Sink

-- The drawing of a tree by plain recursion: a node, then each child with all below it. The walk with
-- its list of frames writes the same statements in the same order.
namespace Arbor.Graph

mutual

-- The statements of a node at this depth, which has this pre-order number, and of all below it.
def descend (scheme : Scheme) (depth ordinal : Nat) : Tree → List Statement
  | ⟨kind, value, children⟩ =>
    scheme.declaration ⟨kind, value, children⟩ depth ordinal ::
      descendAll scheme depth ordinal [] children

-- The statements of the later children, each behind its edge. A child's place is the number of its
-- earlier siblings; their nodes all come between the parent's number and its own.
def descendAll (scheme : Scheme) (depth ordinal : Nat) (earlier : List Tree) :
    List Tree → List Statement
  | [] => []
  | child :: later =>
    scheme.edge depth earlier.length ordinal (ordinal + 1 + Tree.sizeAll earlier) ::
      (descend scheme (depth + 1) (ordinal + 1 + Tree.sizeAll earlier) child ++
        descendAll scheme depth ordinal (earlier ++ [child]) later)

end

-- What the frames still owe: the statements that the walk has yet to write. The next number is one
-- past the nodes visited, so for each frame it is fixed by the children already drawn.
inductive Owes (scheme : Scheme) : Nat → List Frame → List Statement → Prop where
  | nil : Owes scheme next [] []
  | frame (earlier : List Tree) (placed : frame.index = earlier.length)
      (numbered : next = frame.ordinal + 1 + Tree.sizeAll earlier)
      (rest : Owes scheme (next + Tree.sizeAll frame.pending) frames owed) :
      Owes scheme next (frame :: frames)
        (descendAll scheme frame.depth frame.ordinal earlier frame.pending ++ owed)

variable {scheme : Scheme} {next : Nat} {frames : List Frame} {owed : List Statement}

theorem descend_eq (scheme : Scheme) (depth ordinal : Nat) (tree : Tree) :
    descend scheme depth ordinal tree =
      scheme.declaration tree depth ordinal ::
        descendAll scheme depth ordinal [] tree.children := by
  cases tree
  rw [descend]

-- Drawing a child: its own children become a frame, and its parent's frame moves on by one place.
theorem Owes.visit {depth ordinal index : Nat} {child : Tree} {pending : List Tree}
    (owes : Owes scheme next (⟨depth, ordinal, index, child :: pending⟩ :: frames) owed) :
    ∃ later, owed = scheme.edge depth index ordinal next ::
        scheme.declaration child (depth + 1) next :: later ∧
      Owes scheme (next + 1) (⟨depth + 1, next, 0, child.children⟩ ::
        ⟨depth, ordinal, index + 1, pending⟩ :: frames) later := by
  cases owes with
  | frame earlier placed numbered rest =>
    dsimp only at placed numbered rest
    have counted : next + Tree.sizeAll (child :: pending) =
        next + 1 + Tree.sizeAll child.children + Tree.sizeAll pending := by
      simp only [Tree.sizeAll, Tree.size_eq]; omega
    have upto : next + 1 + Tree.sizeAll child.children =
        ordinal + 1 + Tree.sizeAll (earlier ++ [child]) := by
      simp only [Tree.sizeAll_append, Tree.sizeAll, Tree.size_eq]; omega
    rw [counted] at rest
    have parent : Owes scheme (next + 1 + Tree.sizeAll child.children)
        (⟨depth, ordinal, index + 1, pending⟩ :: frames) _ :=
      .frame (earlier ++ [child]) (by simp [placed]) upto rest
    refine ⟨_, ?_, .frame [] rfl rfl parent⟩
    rw [descendAll, descend_eq, placed, numbered]
    simp

def statements (scheme : Scheme) (tree : Tree) : List Statement := descend scheme 0 0 tree

-- The text of some statements, each on its line.
def linesOf (statements : List Statement) : String :=
  String.join (statements.map fun statement => statement.line ++ "\n")

theorem linesOf_cons (statement : Statement) (later : List Statement) (rest : String) :
    linesOf (statement :: later) ++ rest = statement.line ++ "\n" ++ (linesOf later ++ rest) := by
  rw [linesOf, List.map_cons, String.join_cons, String.append_assoc]
  rfl

theorem sends_writeLine (line : String) : Sink.Sends (writeLine line) (line ++ "\n") :=
  Sink.sends_put (line ++ "\n")

-- The walk sends what its frames owe, and the closing line behind it.
theorem sends_writeFrom {scheme : Scheme} {next : Nat} {frames : List Frame} {owed : List Statement}
    (owes : Owes scheme next frames owed) :
    Sink.Sends (writeFrom scheme next · frames) (linesOf owed ++ (closing ++ "\n")) := by
  match frames, owes with
  | [], .nil => exact (sends_writeLine closing).of_eq fun sink => by rw [writeFrom]
  | ⟨depth, ordinal, index, []⟩ :: rest, .frame earlier placed numbered further =>
    exact (sends_writeFrom further).of_eq fun sink => by
      rw [writeFrom]
      rfl
  | ⟨depth, ordinal, index, child :: pending⟩ :: rest, owes =>
    obtain ⟨later, rfl, further⟩ := owes.visit
    rw [linesOf_cons, linesOf_cons]
    have sent := (sends_writeLine (scheme.edge depth index ordinal next).line).append
      ((sends_writeLine (scheme.declaration child (depth + 1) next).line).append
        (sends_writeFrom further))
    exact sent.of_eq fun sink => by
      rw [writeFrom]
      rfl
termination_by work frames
decreasing_by
  · simp only [work]; omega
  · simp only [work, Tree.sizeAll, Tree.size_eq]; omega

theorem sends_write (scheme : Scheme) (tree : Tree) :
    Sink.Sends (write scheme tree)
      (opening ++ "\n" ++ (linesOf (statements scheme tree) ++ (closing ++ "\n"))) := by
  have owes : Owes scheme 1 [⟨0, 0, 0, tree.children⟩] (descendAll scheme 0 0 [] tree.children ++ []) :=
    .frame [] rfl rfl .nil
  rw [List.append_nil] at owes
  rw [statements, descend_eq, linesOf_cons]
  exact (sends_writeLine opening).append
    ((sends_writeLine (scheme.declaration tree 0 0).line).append (sends_writeFrom owes))

theorem render_eq (scheme : Scheme) (tree : Tree) :
    render scheme tree = opening ++ "\n" ++ (linesOf (statements scheme tree) ++ (closing ++ "\n")) :=
  (sends_write scheme tree).text_buffer

end Arbor.Graph
