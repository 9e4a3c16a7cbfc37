import Arbor.Command.World

-- Files and directories of a tree, and what becomes of them when one file is written: it has the
-- new contents, all other files have theirs, and the directories are the same.
namespace Arbor.Command.FileTree

variable {tree after : FileTree} {names other parent : Names} {name location : String}

end Arbor.Command.FileTree
