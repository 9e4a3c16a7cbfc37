-- Paths and types of source code, as far as a tree can show them. Lengths of arrays, bounds of
-- traits and signatures of function pointers are read but not kept.
namespace Arbor.Source

mutual

inductive Path where
  -- `rooted` says whether the path begins with `::`.
  | mk (rooted : Bool) (segments : List Segment)

inductive Segment where
  | mk (name : String) (arguments : Arguments)

inductive Arguments where
  | none
  | angled (arguments : List Argument)

inductive Argument where
  | type (type : Ty)
  | lifetime (name : String)
  -- A constant, or the setting or bound of an associated item.
  | other

inductive Ty where
  -- `qualified` says whether the path begins with a type in angle brackets.
  | path (qualified : Bool) (path : Path)
  | reference (lifetime : Option String) (mutable : Bool) (target : Ty)
  | pointer (mutable : Bool) (target : Ty)
  | slice (element : Ty)
  | array (element : Ty)
  | tuple (elements : List Ty)
  | paren (inner : Ty)
  | never
  | infer
  | implTrait
  -- `lone` says whether it is a single bound without `dyn`.
  | traitObject (lone : Bool)
  -- A function pointer, a macro, or a form that only the grammar knows.
  | other

end

namespace Path

def rooted : Path → Bool
  | .mk rooted _ => rooted

def segments : Path → List Segment
  | .mk _ segments => segments

def ofName (name : String) : Path := .mk false [.mk name .none]

end Path

namespace Segment

def arguments : Segment → Arguments
  | .mk _ arguments => arguments

def isPlain (segment : Segment) : Bool :=
  match segment.arguments with
  | .none => true
  | _ => false

-- Angle brackets around nothing give no arguments.
def isBare (segment : Segment) : Bool :=
  match segment.arguments with
  | .none => true
  | .angled [] => true
  | _ => false

end Segment

def Path.isPlain (path : Path) : Bool := path.segments.all Segment.isPlain

mutual

def Path.shown : Path → String
  | .mk rooted segments => (if rooted then "::" else "") ++ "::".intercalate (segmentsShown segments)

def segmentsShown : List Segment → List String
  | [] => []
  | segment :: rest => segment.shown :: segmentsShown rest

def Segment.shown : Segment → String
  | .mk name arguments => name ++ arguments.shown

def Arguments.shown : Arguments → String
  | .none => ""
  | .angled arguments => "<" ++ ", ".intercalate (argumentsShown arguments) ++ ">"

def argumentsShown : List Argument → List String
  | [] => []
  | argument :: rest => argument.shown :: argumentsShown rest

def Argument.shown : Argument → String
  | .type type => type.shown
  | .lifetime name => name
  | .other => "_"

def Ty.shown : Ty → String
  | .path _ path => path.shown
  | .reference lifetime mutable target =>
    "&" ++ (match lifetime with | some name => name ++ " " | none => "") ++
      (if mutable then "mut " else "") ++ target.shown
  | .pointer mutable target => (if mutable then "*mut " else "*const ") ++ target.shown
  | .slice element => "[" ++ element.shown ++ "]"
  | .array element => "[" ++ element.shown ++ "; _]"
  | .tuple elements => "(" ++ ", ".intercalate (typesShown elements) ++ ")"
  | .paren inner => inner.shown
  | .never => "!"
  | .infer => "_"
  | .implTrait => "impl _"
  | .traitObject _ => "dyn _"
  | .other => "_"

def typesShown : List Ty → List String
  | [] => []
  | type :: rest => type.shown :: typesShown rest

end

end Arbor.Source
