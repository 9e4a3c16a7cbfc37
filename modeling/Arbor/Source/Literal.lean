import Arbor.Text.Lossy

-- Literals of source code, by what they stand for.
namespace Arbor.Source

inductive Literal where
  | text (value : String)
  | bytes (value : List UInt8)
  -- The contents are not kept.
  | zeroEnded
  | byte (value : UInt8)
  | char (value : Char)
  | integer (negative : Bool) (value : Nat) (suffix : String)
  -- Of the spelling only underscores and plus signs are missing, and the exponent's mark is `e`.
  | decimal (negative : Bool) (digits : String) (suffix : String)
  | boolean (value : Bool)
  | verbatim (spelling : String)
deriving DecidableEq

def Literal.shown : Literal → String
  | .text value => value
  | .bytes value => Text.decodeLossy value
  | .zeroEnded => ""
  | .byte value => value.toNat.repr
  | .char value => String.singleton value
  | .integer negative value _ => (if negative then "-" else "") ++ value.repr
  | .decimal negative digits _ => (if negative then "-" else "") ++ digits
  | .boolean value => if value then "true" else "false"
  | .verbatim spelling => spelling

def Literal.negate? : Literal → Option Literal
  | .integer _ value suffix => some (.integer true value suffix)
  | .decimal _ digits suffix => some (.decimal true digits suffix)
  | _ => none

end Arbor.Source
