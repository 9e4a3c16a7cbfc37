-- Trees of imported names.
namespace Arbor.Source

inductive UseTree where
  | path (name : String) (rest : UseTree)
  | name (name : String)
  | rename (name : String) (other : String)
  | glob
  | group (items : List UseTree)

mutual

def UseTree.shown : UseTree → String
  | .path name rest => name ++ "::" ++ rest.shown
  | .name name => name
  | .rename name other => name ++ " as " ++ other
  | .glob => "*"
  | .group items => "\x7b" ++ ", ".intercalate (useTreesShown items) ++ "\x7d"

def useTreesShown : List UseTree → List String
  | [] => []
  | item :: rest => item.shown :: useTreesShown rest

end

end Arbor.Source
