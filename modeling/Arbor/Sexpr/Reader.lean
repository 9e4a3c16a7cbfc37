import Arbor.Sexpr.Token
import Arbor.Tree.Basic

-- Reading a tree from the parenthesised notation: a node is an opening parenthesis, a word for its
-- kind, perhaps a quoted value, its children, and a closing parenthesis. A source holds one root.
namespace Arbor.Sexpr

-- A node whose closing parenthesis has not been met, with its children so far, last first.
structure Unclosed where
  kind : String
  value : Option String
  children : List Tree

def Unclosed.close (node : Unclosed) : Tree :=
  ⟨node.kind, node.value.getD "", node.children.reverse⟩

def Unclosed.add (node : Unclosed) (child : Tree) : Unclosed :=
  { node with children := child :: node.children }

-- Unclosed nodes are kept in a list, innermost first, so that no depth is too great.
def readFrom (nodes : List Unclosed) (root : Option Tree) (cursor : Cursor) :
    Except Fault (Option Tree) :=
  match found : next cursor with
  | .error fault => .error fault
  | .ok (none, behind) =>
    match nodes with
    | [] => .ok root
    | _ :: _ => .error ⟨.unclosed nodes.length, behind.place⟩
  | .ok (some lexeme, behind) =>
    have := next_rest_lt found
    match root with
    | some _ => .error ⟨.afterRoot, lexeme.place⟩
    | none =>
      match lexeme.token with
      | .opening =>
        match foundKind : next behind with
        | .error fault => .error fault
        | .ok (none, further) => .error ⟨.missingKind, further.place⟩
        | .ok (some kind, further) =>
          have := next_rest_lt foundKind
          match kind.token with
          | .word text => readFrom (⟨text, none, []⟩ :: nodes) none further
          | _ => .error ⟨.missingKind, kind.place⟩
      | .value text =>
        match nodes with
        | ⟨kind, none, []⟩ :: outer => readFrom (⟨kind, some text, []⟩ :: outer) none behind
        | _ => .error ⟨.misplacedValue, lexeme.place⟩
      | .word text => .error ⟨.unexpectedWord text, lexeme.place⟩
      | .closing =>
        match nodes with
        | [] => .error ⟨.unmatchedClosing, lexeme.place⟩
        | [node] => readFrom [] (some node.close) behind
        | node :: parent :: outer => readFrom (parent.add node.close :: outer) none behind
termination_by cursor.rest.length

-- A source is empty if it holds nothing but white space and comments.
inductive Refusal where
  | empty
  | malformed (position : Text.Position) (cause : Cause)
deriving DecidableEq

def read (source : String) : Except Refusal Tree :=
  match readFrom [] none (.start source) with
  | .ok (some tree) => .ok tree
  | .ok none => .error .empty
  | .error fault => .error (.malformed fault.place fault.cause)

end Arbor.Sexpr
