import Arbor.Graph.Statement
import Arbor.Sink

namespace Arbor.Graph

-- A node on the way down, with its children not yet drawn and the place of the first of them. The
-- frames stand in a list, so that no tree is too deep for the walk.
structure Frame where
  depth : Nat
  ordinal : Nat
  index : Nat
  pending : List Tree

-- What is left to do: a step for each frame, and two for each node below.
def work : List Frame → Nat
  | [] => 0
  | frame :: rest => 1 + 2 * Tree.sizeAll frame.pending + work rest

def opening : String := "digraph G \x7b"

def closing : String := "\x7d"

def writeLine (line : String) (sink : Sink) : Sink × Option Sink.Failure := sink.put (line ++ "\n")

-- Draws the pending children of the frames, innermost first, up to the first failure. `next` is the
-- next pre-order number.
def writeFrom (scheme : Scheme) (next : Nat) (sink : Sink) :
    List Frame → Sink × Option Sink.Failure
  | [] => writeLine closing sink
  | ⟨_, _, _, []⟩ :: rest => writeFrom scheme next sink rest
  | ⟨depth, ordinal, index, child :: pending⟩ :: rest =>
    match writeLine (scheme.edge depth index ordinal next).line sink with
    | (sink, some failure) => (sink, some failure)
    | (sink, none) =>
      match writeLine (scheme.declaration child (depth + 1) next).line sink with
      | (sink, some failure) => (sink, some failure)
      | (sink, none) =>
        writeFrom scheme (next + 1) sink
          (⟨depth + 1, next, 0, child.children⟩ :: ⟨depth, ordinal, index + 1, pending⟩ :: rest)
termination_by frames => work frames
decreasing_by
  · simp only [work]; omega
  · simp only [work, Tree.sizeAll, Tree.size_eq]; omega

def write (scheme : Scheme) (tree : Tree) (sink : Sink) : Sink × Option Sink.Failure :=
  match writeLine opening sink with
  | (sink, some failure) => (sink, some failure)
  | (sink, none) =>
    match writeLine (scheme.declaration tree 0 0).line sink with
    | (sink, some failure) => (sink, some failure)
    | (sink, none) => writeFrom scheme 1 sink [⟨0, 0, 0, tree.children⟩]

def render (scheme : Scheme) (tree : Tree) : String := (write scheme tree .buffer).1.text

end Arbor.Graph
