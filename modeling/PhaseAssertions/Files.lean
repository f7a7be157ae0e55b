/-!
# Files

What is known of the file system: the current directory, and what a path leads
to.  A path leads to a file with its contents, to a directory, or nowhere.
Both kinds have a size; only a file can be read.
-/

namespace PhaseAssertions

/-- Why a path cannot be followed, or its contents cannot be read. -/
inductive AccessFault where
  | notFound
  /-- The path goes on behind a file. -/
  | notDirectory
  | isDirectory
  | other (description : String) (code : Nat)
deriving DecidableEq

namespace AccessFault

def description : AccessFault → String
  | .notFound => "No such file or directory"
  | .notDirectory => "Not a directory"
  | .isDirectory => "Is a directory"
  | .other description _ => description

def code : AccessFault → Nat
  | .notFound => 2
  | .notDirectory => 20
  | .isDirectory => 21
  | .other _ code => code

def message (fault : AccessFault) : String :=
  fault.description ++ " (os error " ++ toString fault.code ++ ")"

end AccessFault

/-- What a path leads to. -/
inductive FileEntry where
  | file (contents : List UInt8)
  | directory (size : Nat)
deriving DecidableEq

namespace FileEntry

def size : FileEntry → Nat
  | .file contents => contents.length
  | .directory size => size

/-- The contents, unless it is a directory. -/
def read : FileEntry → Except AccessFault (List UInt8)
  | .file contents => .ok contents
  | .directory _ => .error .isDirectory

end FileEntry

/-- What is known of the file system. -/
structure Files where
  /-- The absolute path of the current directory. -/
  directory : String
  find : String → Except AccessFault FileEntry

end PhaseAssertions
