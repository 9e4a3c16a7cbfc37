import Arbor.Graph.Label
import Arbor.Tree.Basic

-- The statements of a drawn graph: declarations of nodes and edges between them, under one of two
-- schemes for naming the nodes.
namespace Arbor.Graph

inductive Scheme where
  -- A declaration is named after its depth, the target of an edge after the parent's depth and the
  -- child's place. Labels are written as they are.
  | depth
  -- Nodes are numbered in pre-order, on both ends of an edge. Labels are escaped.
  | preOrder
deriving DecidableEq, Inhabited

def Scheme.name : Scheme → String
  | .depth => "depth"
  | .preOrder => "pre-order"

def Scheme.ofName? (name : String) : Option Scheme :=
  if name = "depth" then some .depth
  else if name = "pre-order" then some .preOrder
  else none

def Scheme.standard : Scheme := .depth

inductive Name where
  | numbered (number : Nat)
  | slot (depth index : Nat)
deriving DecidableEq

def Name.text : Name → String
  | .numbered number => "n" ++ number.repr
  | .slot depth index => "n" ++ depth.repr ++ "_" ++ index.repr

inductive Statement where
  | declare (name : Name) (label : String)
  | connect (source target : Name)
deriving DecidableEq

def Statement.line : Statement → String
  | .declare name label => "\t" ++ name.text ++ "[label = \"" ++ label ++ "\"];"
  | .connect source target => "\t\t" ++ source.text ++ " -> " ++ target.text ++ ";"

def Scheme.declaration (scheme : Scheme) (tree : Tree) (depth ordinal : Nat) : Statement :=
  match scheme with
  | .depth => .declare (.numbered depth) tree.label
  | .preOrder => .declare (.numbered ordinal) (escape tree.label)

def Scheme.edge (scheme : Scheme) (depth index parent child : Nat) : Statement :=
  match scheme with
  | .depth => .connect (.numbered depth) (.slot depth index)
  | .preOrder => .connect (.numbered parent) (.numbered child)

end Arbor.Graph
