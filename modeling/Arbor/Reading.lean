import Arbor.Format
import Arbor.Json.Reader
import Arbor.Sexpr.Reader
import Arbor.Source.File

-- Reading a tree from a source in one of the input formats.
namespace Arbor

inductive Refusal where
  | empty
  | malformed (position : Text.Position) (cause : Sexpr.Cause)
  | invalidJson (place : Json.Place) (cause : Json.Cause)
  | invalidSource
deriving DecidableEq

namespace Refusal

def jsonText (place : Json.Place) (cause : Json.Cause) : String :=
  cause.text ++ " at line " ++ place.line.repr ++ " column " ++ place.column.repr

def message : Refusal → String
  | .empty => "input contains no tree"
  | .malformed position cause =>
    "syntax error at " ++ position.line.repr ++ ":" ++ position.column.repr ++ ": " ++ cause.text
  | .invalidJson place cause => "invalid JSON tree: " ++ jsonText place cause
  | .invalidSource => "invalid Rust source"

def messages : Refusal → List String
  | .invalidJson place cause => [message (.invalidJson place cause), jsonText place cause]
  | refusal => [refusal.message]

def ofSexpr : Sexpr.Refusal → Refusal
  | .empty => .empty
  | .malformed position cause => .malformed position cause

def ofJson : Json.Refusal → Refusal
  | .empty => .empty
  | .malformed place cause => .invalidJson place cause

end Refusal

def InputFormat.read (format : InputFormat) (source : String) : Except Refusal Tree :=
  match format with
  | .sexpr => (Sexpr.read source).mapError .ofSexpr
  | .json => (Json.read source).mapError .ofJson
  | .rust =>
    match Source.read source with
    | some tree => .ok tree
    | none => .error .invalidSource

end Arbor
