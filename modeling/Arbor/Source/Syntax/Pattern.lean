import Arbor.Source.Literal
import Arbor.Source.Syntax.Path

-- Patterns of source code, as far as a tree can show them. Patterns behind `@`, fields of a struct
-- pattern and ends of a range are read but not kept.
namespace Arbor.Source

inductive Pattern where
  | name (byRef mutable : Bool) (name : String)
  | wild
  | rest
  | literal (value : Literal)
  | path (path : Path)
  | typed (pattern : Pattern) (type : Ty)
  | paren (inner : Pattern)
  | reference (mutable : Bool) (target : Pattern)
  | tuple (elements : List Pattern)
  | tupleStruct (path : Path) (elements : List Pattern)
  | slice (elements : List Pattern)
  | struct (path : Path)
  | or (cases : List Pattern)
  -- `bounded` says whether both ends are given.
  | range (bounded : Bool)
  | other

mutual

def Pattern.shown : Pattern → String
  | .name byRef mutable name =>
    (if byRef then "ref " else "") ++ (if mutable then "mut " else "") ++ name
  | .wild => "_"
  | .rest => ".."
  | .literal value => value.shown
  | .path path => path.shown
  | .typed pattern _ => pattern.shown
  | .paren inner => inner.shown
  | .reference mutable target => (if mutable then "&mut " else "&") ++ target.shown
  | .tuple elements => "(" ++ ", ".intercalate (patternsShown elements) ++ ")"
  | .tupleStruct path elements =>
    path.shown ++ "(" ++ ", ".intercalate (patternsShown elements) ++ ")"
  | .slice elements => "[" ++ ", ".intercalate (patternsShown elements) ++ "]"
  | .struct path => path.shown ++ " \x7b .. \x7d"
  | .or cases => " | ".intercalate (patternsShown cases)
  | .range _ => "_"
  | .other => "_"

def patternsShown : List Pattern → List String
  | [] => []
  | pattern :: rest => pattern.shown :: patternsShown rest

end

end Arbor.Source
