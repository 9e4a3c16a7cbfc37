import Arbor.Command.Host
import Arbor.Text.Basic

-- A world that is a value: a tree of files with the directory in which the program runs, what
-- stands on the standard input, and what has been written to the standard output. Whatever can be
-- read or written is so as a whole or not at all.
namespace Arbor.Command

abbrev Names := List String

inductive Access where
  | reading
  | writing
deriving DecidableEq

structure FileTree where
  files : List (Names × ByteArray)
  directories : List Names
  place : Names
  -- What keeps files from being opened, other than that they are not there.
  barrier : Access → Names → Option Trouble

namespace FileTree

-- What lies above a file or a directory is a directory, listed or not.
def isDirectory (tree : FileTree) (names : Names) : Bool :=
  names.isEmpty || tree.directories.any names.isPrefixOf ||
    tree.files.any fun file => names.isPrefixOf file.1 && names != file.1

def contents? (tree : FileTree) (names : Names) : Option ByteArray :=
  if tree.isDirectory names then none
  else (tree.files.find? fun file => file.1 = names).map Prod.snd

def put (tree : FileTree) (names : Names) (contents : ByteArray) : FileTree :=
  { tree with files := (names, contents) :: tree.files.filter fun file => file.1 != names }

def obstacle? (tree : FileTree) (names : Names) : Option Trouble :=
  if tree.isDirectory names then none
  else if (tree.contents? names).isSome then some .notDirectory
  else some .missing

-- The top of the tree is above itself.
def enter (names : Names) (piece : String) : Names :=
  if piece = "" || piece = "." then names
  else if piece = ".." then names.dropLast
  else names ++ [piece]

-- Every step is made from within a directory. The place to which the last one leads need not exist.
def walk (tree : FileTree) (names : Names) : List String → Except Trouble Names
  | [] => .ok names
  | piece :: rest =>
    match tree.obstacle? names with
    | some trouble => .error trouble
    | none => tree.walk (enter names piece) rest

def pieces (location : String) : List String :=
  (Text.splitAt '/' location.toList).map String.ofList

def origin (tree : FileTree) (pieces : List String) : Names :=
  if pieces.head? = some "" then [] else tree.place

def find (tree : FileTree) (location : String) : Except Trouble Names :=
  tree.walk (tree.origin (pieces location)) (pieces location)

def read (tree : FileTree) (location : String) : Except Trouble ByteArray :=
  match tree.find location with
  | .error trouble => .error trouble
  | .ok names =>
    match tree.contents? names with
    | none => if tree.isDirectory names then .error .directory else .error .missing
    | some contents =>
      match tree.barrier .reading names with
      | some trouble => .error trouble
      | none => .ok contents

-- A location that ends with a slash or with dots leads to a directory, and so cannot be written.
def target (tree : FileTree) (location : String) : Except Trouble Names :=
  let pieces := pieces location
  let named := pieces.reverse.dropWhile (· = "")
  match named with
  | [] => .error .directory
  | last :: above =>
    match tree.walk (tree.origin pieces) above.reverse with
    | .error trouble => .error trouble
    | .ok parent =>
      match tree.obstacle? parent with
      | some trouble => .error trouble
      | none =>
        if last = "." || last = ".." || named.length < pieces.length ||
            tree.isDirectory (parent ++ [last]) then .error .directory
        else
          match tree.barrier .writing (parent ++ [last]) with
          | some trouble => .error trouble
          | none => .ok (parent ++ [last])

def write (tree : FileTree) (location : String) (contents : ByteArray) :
    Except Trouble FileTree :=
  (tree.target location).map fun names => tree.put names contents

end FileTree

structure World where
  tree : FileTree
  input : Except Trouble ByteArray
  output : String
  closed : Option Trouble

def World.host : Host (StateM World) where
  readFile location := do return (← get).tree.read location
  readInput := do return (← get).input
  writeFile location text := do
    let world ← get
    match world.tree.write location text.toUTF8 with
    | .error trouble => return .error trouble
    | .ok tree =>
      set { world with tree }
      return .ok ()
  writeOutput text := do
    let world ← get
    match world.closed with
    | some trouble => return .error trouble
    | none =>
      set { world with output := world.output ++ text }
      return .ok ()

end Arbor.Command
