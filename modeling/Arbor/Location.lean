import Arbor.Text.Basic

-- Where a file lies: names of directories and a last name, with slashes between them. Slashes at
-- the end, doubled slashes and single dots behind a slash mean nothing.
namespace Arbor.Location

inductive Part where
  | root
  -- A single dot at the very beginning.
  | here
  | up
  | name (text : String)
deriving DecidableEq

def part? (piece : List Char) : Option Part :=
  if piece = [] || piece = ['.'] then none
  else if piece = ['.', '.'] then some .up
  else some (.name (String.ofList piece))

def parts (location : String) : List Part :=
  match Text.splitAt '/' location.toList with
  | [] => []
  | first :: others =>
    let behind := others.filterMap part?
    if first = [] then if others = [] then [] else .root :: behind
    else if first = ['.'] then .here :: behind
    else (part? first).toList ++ behind

def lastName? (location : String) : Option String :=
  match (parts location).getLast? with
  | some (.name text) => some text
  | _ => none

-- A name that begins with its only dot has no extension.
def extensionOfName? (name : String) : Option String :=
  match Text.splitAt '.' name.toList with
  | [] => none
  | [_] => none
  | [[], _] => none
  | pieces => pieces.getLast?.map String.ofList

def extension? (location : String) : Option String :=
  (lastName? location).bind extensionOfName?

def isStandardInput (location : String) : Bool := parts location = [.name "-"]

end Arbor.Location
