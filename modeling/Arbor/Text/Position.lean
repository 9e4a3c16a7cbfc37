-- Places in a text. Lines and columns count from 1, columns in characters, and only a line feed
-- begins a new line.
namespace Arbor.Text

structure Position where
  line : Nat
  column : Nat
deriving DecidableEq

namespace Position

def start : Position := ⟨1, 1⟩

def advance (position : Position) (c : Char) : Position :=
  if c = '\n' then ⟨position.line + 1, 1⟩ else ⟨position.line, position.column + 1⟩

end Position

end Arbor.Text
