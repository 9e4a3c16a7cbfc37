import Arbor.Location
import Arbor.Text.Lowercase

-- The notations that trees are read from and written in.
namespace Arbor

inductive InputFormat where
  | sexpr
  | json
  | rust
deriving DecidableEq

namespace InputFormat

def name : InputFormat → String
  | .sexpr => "sexpr"
  | .json => "json"
  | .rust => "rust"

def ofName? (name : String) : Option InputFormat :=
  if name = "sexpr" then some .sexpr
  else if name = "json" then some .json
  else if name = "rust" then some .rust
  else none

-- Capitals do not matter.
def ofExtension? (extension : String) : Option InputFormat :=
  let folded := Text.lowercase extension
  if folded = "sexpr" || folded = "sexp" || folded = "tree" then some .sexpr
  else if folded = "json" then some .json
  else if folded = "rs" then some .rust
  else none

def ofLocation? (location : String) : Option InputFormat :=
  (Location.extension? location).bind ofExtension?

end InputFormat

inductive OutputFormat where
  | dot
  | json
  | text
deriving DecidableEq

namespace OutputFormat

def name : OutputFormat → String
  | .dot => "dot"
  | .json => "json"
  | .text => "text"

def ofName? (name : String) : Option OutputFormat :=
  if name = "dot" then some .dot
  else if name = "json" then some .json
  else if name = "text" then some .text
  else none

def standard : OutputFormat := .dot

end OutputFormat

end Arbor
