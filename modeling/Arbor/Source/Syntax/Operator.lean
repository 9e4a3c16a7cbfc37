-- Operators of source code and how tightly they bind.
namespace Arbor.Source

-- A greater number binds more tightly.
abbrev Precedence := Nat

namespace Precedence

def least : Precedence := 0
def assign : Precedence := 1
def range : Precedence := 2
def or : Precedence := 3
def and : Precedence := 4
def compare : Precedence := 5
def bitOr : Precedence := 6
def bitXor : Precedence := 7
def bitAnd : Precedence := 8
def shift : Precedence := 9
def sum : Precedence := 10
def product : Precedence := 11
def cast : Precedence := 12

end Precedence

inductive UnaryOp where
  | deref
  | not
  | negate
deriving DecidableEq

def UnaryOp.text : UnaryOp → String
  | .deref => "*"
  | .not => "!"
  | .negate => "-"

inductive BinaryOp where
  | add | sub | mul | div | rem
  | and | or
  | bitXor | bitAnd | bitOr
  | shiftLeft | shiftRight
  | equal | less | lessEqual | notEqual | greaterEqual | greater
  | addAssign | subAssign | mulAssign | divAssign | remAssign
  | bitXorAssign | bitAndAssign | bitOrAssign
  | shiftLeftAssign | shiftRightAssign
deriving DecidableEq

namespace BinaryOp

def text : BinaryOp → String
  | .add => "+"
  | .sub => "-"
  | .mul => "*"
  | .div => "/"
  | .rem => "%"
  | .and => "&&"
  | .or => "||"
  | .bitXor => "^"
  | .bitAnd => "&"
  | .bitOr => "|"
  | .shiftLeft => "<<"
  | .shiftRight => ">>"
  | .equal => "=="
  | .less => "<"
  | .lessEqual => "<="
  | .notEqual => "!="
  | .greaterEqual => ">="
  | .greater => ">"
  | .addAssign => "+="
  | .subAssign => "-="
  | .mulAssign => "*="
  | .divAssign => "/="
  | .remAssign => "%="
  | .bitXorAssign => "^="
  | .bitAndAssign => "&="
  | .bitOrAssign => "|="
  | .shiftLeftAssign => "<<="
  | .shiftRightAssign => ">>="

def precedence : BinaryOp → Precedence
  | .add | .sub => .sum
  | .mul | .div | .rem => .product
  | .and => .and
  | .or => .or
  | .bitXor => .bitXor
  | .bitAnd => .bitAnd
  | .bitOr => .bitOr
  | .shiftLeft | .shiftRight => .shift
  | .equal | .less | .lessEqual | .notEqual | .greaterEqual | .greater => .compare
  | .addAssign | .subAssign | .mulAssign | .divAssign | .remAssign
  | .bitXorAssign | .bitAndAssign | .bitOrAssign
  | .shiftLeftAssign | .shiftRightAssign => .assign

-- Each operator stands before those whose spelling begins its own.
def bySpelling : List BinaryOp :=
  [.addAssign, .subAssign, .mulAssign, .divAssign, .remAssign, .bitXorAssign, .bitAndAssign,
   .bitOrAssign, .shiftLeftAssign, .shiftRightAssign, .and, .or, .shiftLeft, .shiftRight, .equal,
   .lessEqual, .notEqual, .greaterEqual, .add, .sub, .mul, .div, .rem, .bitXor, .bitAnd, .bitOr,
   .less, .greater]

end BinaryOp

end Arbor.Source
