import Arbor.Sink
import Arbor.Text.Basic
import Arbor.Tree.Basic

-- A tree as JSON text: one object for each node with the members `kind`, `value` and `children`,
-- spread over lines that are indented by two spaces for each level.
namespace Arbor.Json

open Text (indent)

-- Only quotes, backslashes and control characters are escaped.
def escapeChar (c : Char) : List Char :=
  if c = '"' then ['\\', '"']
  else if c = '\\' then ['\\', '\\']
  else if c = '\x08' then ['\\', 'b']
  else if c = '\x0c' then ['\\', 'f']
  else if c = '\n' then ['\\', 'n']
  else if c = '\r' then ['\\', 'r']
  else if c = '\t' then ['\\', 't']
  else if c.toNat < 0x20 then
    ['\\', 'u', '0', '0', Nat.digitChar (c.toNat / 16), Nat.digitChar (c.toNat % 16)]
  else [c]

def quote (text : String) : String :=
  "\"" ++ String.ofList (text.toList.flatMap escapeChar) ++ "\""

-- What is still to be written: a text, or a node at its level after the text that leads up to it.
inductive Piece where
  | text (text : String)
  | node (lead : String) (level : Nat) (tree : Tree)

def work : List Piece → Nat
  | [] => 0
  | .text _ :: rest => 1 + work rest
  | .node _ _ tree :: rest => 2 * tree.size + work rest

theorem work_append (left right : List Piece) : work (left ++ right) = work left + work right := by
  induction left with
  | nil => simp [work]
  | cons piece rest ih => cases piece <;> simp only [List.cons_append, work, ih] <;> omega

def head (level : Nat) (tree : Tree) : String :=
  "\x7b\n" ++ indent (level + 1) ++ "\"kind\": " ++ quote tree.kind ++ ",\n" ++
    indent (level + 1) ++ "\"value\": " ++ quote tree.value ++ ",\n" ++
    indent (level + 1) ++ "\"children\": "

def tail (level : Nat) : String := "\n" ++ indent level ++ "\x7d"

def siblings (level : Nat) (trees : List Tree) : List Piece :=
  trees.map (.node (",\n" ++ indent level) level)

theorem work_siblings (level : Nat) (trees : List Tree) :
    work (siblings level trees) = 2 * Tree.sizeAll trees := by
  induction trees with
  | nil => simp [siblings, work, Tree.sizeAll]
  | cons tree rest ih =>
    simp only [siblings, List.map_cons, work, Tree.sizeAll] at ih ⊢
    omega

-- Writes the pending pieces, up to the first failure.
def writeFrom (sink : Sink) : List Piece → Sink × Option Sink.Failure
  | [] => (sink, none)
  | .text text :: rest =>
    match sink.put text with
    | (sink, some failure) => (sink, some failure)
    | (sink, none) => writeFrom sink rest
  | .node lead level ⟨kind, value, []⟩ :: rest =>
    match sink.put (lead ++ head level ⟨kind, value, []⟩ ++ "[]" ++ tail level) with
    | (sink, some failure) => (sink, some failure)
    | (sink, none) => writeFrom sink rest
  | .node lead level ⟨kind, value, first :: others⟩ :: rest =>
    match sink.put (lead ++ head level ⟨kind, value, first :: others⟩) with
    | (sink, some failure) => (sink, some failure)
    | (sink, none) =>
      writeFrom sink
        (.node ("[\n" ++ indent (level + 2)) (level + 2) first ::
          (siblings (level + 2) others ++
            .text ("\n" ++ indent (level + 1) ++ "]" ++ tail level) :: rest))
termination_by pending => work pending
decreasing_by
  · simp only [work]; omega
  · simp only [work, Tree.size]; omega
  · simp only [work, work_append, work_siblings, Tree.size, Tree.sizeAll]; omega

def write (tree : Tree) (sink : Sink) : Sink × Option Sink.Failure :=
  writeFrom sink [.node "" 0 tree, .text "\n"]

def render (tree : Tree) : String := (write tree .buffer).1.text

end Arbor.Json
