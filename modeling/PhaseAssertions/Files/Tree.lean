import PhaseAssertions.Files
import PhaseAssertions.Path

/-!
# Trees of files

A directory as a tree.  A path is followed part by part from the directory at
the top: a single dot stays where it is and two dots go back up, but only a
directory can be passed through, and a path with a slash at its end has to
lead to one.  Nothing is known of what lies outside the directory at the top.
-/

namespace PhaseAssertions

/-- A file or a directory with everything in it. -/
inductive FileTree where
  | file (contents : List UInt8)
  | directory (entries : List (List Char × FileTree))
deriving Inhabited

namespace FileTree

def empty : FileTree :=
  .directory []

def directorySize : Nat :=
  4096

/-- The entry that a tree is for those who look at it. -/
def entry : FileTree → FileEntry
  | .file contents => .file contents
  | .directory _ => .directory directorySize

def child? (tree : FileTree) (name : List Char) : Option FileTree :=
  match tree with
  | .file _ => none
  | .directory entries => entries.lookup name

def setChild (tree : FileTree) (name : List Char) (child : FileTree) : FileTree :=
  match tree with
  | .file contents => .file contents
  | .directory entries =>
    .directory ((name, child) :: entries.filter fun entry => entry.1 ≠ name)

/-- The tree with something at a path; directories on the way are made. -/
def insert (content : FileTree) : List (List Char) → FileTree → FileTree
  | [], _ => content
  | part :: rest, tree =>
    tree.setChild part (insert content rest ((tree.child? part).getD empty))

/-- The tree whose entries have the given paths, later ones inserted last. -/
def ofPaths (entries : List (String × FileTree)) : FileTree :=
  entries.foldl (fun tree entry => insert entry.2 (Path.parts entry.1) tree) empty

/--
What the parts of a path lead to from a tree, the directories around which are
`outer`, the innermost first.
-/
def follow (outer : List FileTree) : FileTree → List (List Char) →
    Except AccessFault FileTree
  | tree, [] => .ok tree
  | .file _, _ :: _ => .error .notDirectory
  | .directory entries, part :: rest =>
    if part = [] || part = ['.'] then
      follow outer (.directory entries) rest
    else if part = ['.', '.'] then
      match outer with
      | parent :: outer => follow outer parent rest
      | [] => .error .notFound
    else
      match entries.lookup part with
      | some tree => follow (.directory entries :: outer) tree rest
      | none => .error .notFound

/-- What a path leads to from the directory at the top. -/
def find (tree : FileTree) (path : String) : Except AccessFault FileEntry :=
  if path.isEmpty || Path.isAbsolute path then
    .error .notFound
  else
    (follow [] tree (Path.split path.toList)).map entry

/-- The files of a tree, the top of which is the current directory. -/
def files (tree : FileTree) (directory : String) : Files :=
  { directory, find := tree.find }

end FileTree

end PhaseAssertions
