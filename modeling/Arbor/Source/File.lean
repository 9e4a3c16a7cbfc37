import Arbor.Source.Grammar.Item
import Arbor.Source.Lexical.Tokens
import Arbor.Source.Syntax.Tree

-- Source files: the grammar as a whole, and the tree of a file.
namespace Arbor.Source

def grammar : Nat → Rules
  | 0 => .empty
  | depth + 1 =>
    { type := fun plus tokens => Rule.type (grammar depth) plus tokens
      bound := fun captures constant tokens => Rule.bound (grammar depth) captures constant tokens
      pattern := fun tokens => Rule.pattern (grammar depth) tokens
      expr := fun structs tokens => Rule.expr (grammar depth) structs tokens
      unary := fun structs tokens => Rule.unary (grammar depth) structs tokens
      atom := fun structs tokens => Rule.atom (grammar depth) structs tokens
      operators := fun structs base left tokens =>
        Rule.operators (grammar depth) structs base left tokens
      statements := fun tokens => Rule.statements (grammar depth) tokens
      fields := fun tokens => Rule.fields (grammar depth) tokens
      item := fun tokens => Rule.item (grammar depth) tokens
      use := fun rooted tokens => Rule.use (grammar depth) rooted tokens }

def Rule.file (rules : Rules) : Rule (List Item) := do
  innerAttributes rules
  allOf (do discard (attributes rules); rules.item)

-- Rules refer to each other at most four times before one of them reads a token, which bounds the
-- depth.
def items? (source : String) : Option (List Item) := do
  let tokens ← Lexical.tokens? source
  match Rule.file (grammar (4 * Token.countAll tokens + 8)) tokens with
  | some (items, []) => some items
  | _ => none

def read (source : String) : Option Tree := (items? source).map fileTree

end Arbor.Source
