import Arbor.Json.Writer
import Arbor.Proofs.Sink

-- What the JSON writer sends, by plain recursion over the tree.
namespace Arbor.Json

open Text (indent)

mutual

-- A node at its level, without the white space before it.
def written (level : Nat) : Tree → String
  | ⟨kind, value, children⟩ =>
    head level ⟨kind, value, children⟩ ++ list level children ++ tail level

-- The children of a node at this level.
def list (level : Nat) : List Tree → String
  | [] => "[]"
  | first :: others =>
    "[\n" ++ indent (level + 2) ++ written (level + 2) first ++ further (level + 2) others ++
      "\n" ++ indent (level + 1) ++ "]"

-- Nodes behind the first of a list, all at one level.
def further (level : Nat) : List Tree → String
  | [] => ""
  | tree :: others => ",\n" ++ indent level ++ written level tree ++ further level others

end

def Piece.written : Piece → String
  | .text whole => whole
  | .node lead level tree => lead ++ Json.written level tree

theorem join_siblings (level : Nat) (trees : List Tree) :
    String.join ((siblings level trees).map Piece.written) = further level trees := by
  induction trees with
  | nil => simp [siblings, further]
  | cons tree trees ih =>
    rw [siblings] at ih ⊢
    rw [List.map_cons, List.map_cons, String.join_cons, ih, further, Piece.written]

-- What is pending is sent in order; a node puts its parts in front of what was pending with it.
theorem sends_writeFrom (pending : List Piece) :
    Sink.Sends (writeFrom · pending) (String.join (pending.map Piece.written)) := by
  match pending with
  | [] => exact Sink.sends_nothing.of_eq fun sink => by rw [writeFrom]
  | .text text :: rest =>
    rw [List.map_cons, String.join_cons]
    exact ((Sink.sends_put text).append (sends_writeFrom rest)).of_eq fun sink => by
      rw [writeFrom]
      rfl
  | .node lead level ⟨kind, value, []⟩ :: rest =>
    have sent := (Sink.sends_put (lead ++ head level ⟨kind, value, []⟩ ++ "[]" ++ tail level)).append
      (sends_writeFrom rest)
    have whole : String.join ((.node lead level ⟨kind, value, []⟩ :: rest).map Piece.written) =
        lead ++ head level ⟨kind, value, []⟩ ++ "[]" ++ tail level ++
          String.join (rest.map Piece.written) := by
      simp [Piece.written, written, list, String.append_assoc]
    rw [whole]
    exact sent.of_eq fun sink => by
      rw [writeFrom]
      rfl
  | .node lead level ⟨kind, value, first :: others⟩ :: rest =>
    let inner : List Piece := .node ("[\n" ++ indent (level + 2)) (level + 2) first ::
      (siblings (level + 2) others ++
        .text ("\n" ++ indent (level + 1) ++ "]" ++ tail level) :: rest)
    have sent := (Sink.sends_put (lead ++ head level ⟨kind, value, first :: others⟩)).append
      (sends_writeFrom inner)
    have whole : String.join
        ((.node lead level ⟨kind, value, first :: others⟩ :: rest).map Piece.written) =
        lead ++ head level ⟨kind, value, first :: others⟩ ++
          String.join (inner.map Piece.written) := by
      simp [inner, Piece.written, written, list, String.append_assoc, join_siblings]
    rw [whole]
    exact sent.of_eq fun sink => by
      rw [writeFrom]
      rfl
termination_by work pending
decreasing_by
  · simp only [work]; omega
  · simp only [work, Tree.size]; omega
  · simp only [work, work_append, work_siblings, Tree.size, Tree.sizeAll]; omega

theorem sends_write (tree : Tree) : Sink.Sends (write tree) (written 0 tree ++ "\n") := by
  have sent := sends_writeFrom [.node "" 0 tree, .text "\n"]
  simp only [List.map_cons, List.map_nil, String.join_cons, String.join_nil, Piece.written,
    String.empty_append, String.append_empty] at sent
  exact sent

theorem render_eq_written (tree : Tree) : render tree = written 0 tree ++ "\n" :=
  (sends_write tree).text_buffer

end Arbor.Json
