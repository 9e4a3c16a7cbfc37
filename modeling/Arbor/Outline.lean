import Arbor.Sink
import Arbor.Text.Basic
import Arbor.Tree.Entries

namespace Arbor.Outline

-- An empty value leaves no space behind the kind.
def line (entry : Tree.Entry) : String :=
  Text.indent entry.depth ++ entry.kind ++ (if entry.value = "" then "" else " " ++ entry.value) ++ "\n"

-- Writes the pending nodes, each before its children, up to the first failure.
def writeFrom (sink : Sink) : List (Nat × Tree) → Sink × Option Sink.Failure
  | [] => (sink, none)
  | (depth, tree) :: pending =>
    match sink.put (line ⟨depth, tree.kind, tree.value⟩) with
    | (sink, some failure) => (sink, some failure)
    | (sink, none) => writeFrom sink (tree.children.map (depth + 1, ·) ++ pending)
termination_by pending => Tree.sizeAll (pending.map Prod.snd)
decreasing_by simp [Tree.sizeAll, Tree.size_eq, Function.comp_def]

def write (tree : Tree) (sink : Sink) : Sink × Option Sink.Failure := writeFrom sink [(0, tree)]

def render (tree : Tree) : String := (write tree .buffer).1.text

end Arbor.Outline
