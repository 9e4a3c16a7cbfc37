import Arbor.Source.Literal

-- Tokens of source code. Brackets always match, so a bracketed stretch is one token that holds the
-- tokens between its brackets.
namespace Arbor.Source

inductive Delimiter where
  | paren
  | bracket
  | brace
deriving DecidableEq

inductive Token where
  -- A raw identifier keeps its `r#`.
  | word (text : String)
  -- One character, and whether another follows without a gap.
  | sign (char : Char) (joint : Bool)
  | literal (value : Literal) (spelling : String)
  | group (delimiter : Delimiter) (tokens : List Token)

namespace Token

mutual

def count : Token → Nat
  | .word _ => 1
  | .sign .. => 1
  | .literal .. => 1
  | .group _ tokens => 1 + countAll tokens

def countAll : List Token → Nat
  | [] => 0
  | token :: rest => token.count + countAll rest

end

end Token

end Arbor.Source
