/-!
# Paths

Paths are texts whose parts are separated by slashes.  A part that is a single
dot says nothing and is dropped, as are empty parts between neighbouring
slashes; two dots stay, because what they mean depends on the file system.
-/

namespace PhaseAssertions.Path

/-- The parts of a path between its slashes, empty ones included. -/
def split : List Char → List (List Char)
  | [] => [[]]
  | '/' :: rest => [] :: split rest
  | character :: rest =>
    match split rest with
    | [] => [[character]]
    | part :: parts => (character :: part) :: parts

/-- The parts that say something: neither empty nor a single dot. -/
def parts (path : String) : List (List Char) :=
  (split path.toList).filter fun part => part ≠ [] && part ≠ ['.']

def isAbsolute (path : String) : Bool :=
  path.toList.head? = some '/'

/-- Whether the path ends in a slash, which marks a directory. -/
def endsInSlash (path : String) : Bool :=
  path.toList.getLast? = some '/'

/--
What an absolute form of the path starts with: the root, the doubled root if
exactly two slashes lead, and the given directory for a relative path.
-/
def base (directory path : String) : List Char :=
  match path.toList with
  | '/' :: '/' :: '/' :: _ => ['/']
  | '/' :: '/' :: _ => ['/', '/']
  | '/' :: _ => ['/']
  | _ => directory.toList

def join (path part : List Char) : List Char :=
  if path.getLast? = some '/' then path ++ part else path ++ '/' :: part

/--
The absolute form of a path, relative paths being taken from `directory`.  It
is found without a look at the file system, so two dots stay; a slash at the
end stays as well, and the empty path has no other form.
-/
def absolute (directory path : String) : String :=
  if path.isEmpty then
    path
  else
    let plain := (parts path).foldl join (base directory path)
    String.ofList <|
      if endsInSlash path && plain.getLast? ≠ some '/' then plain ++ ['/'] else plain

/-- The last part, unless it leads upwards. -/
def fileName? (path : String) : Option (List Char) :=
  (parts path).getLast?.filter fun part => part ≠ ['.', '.']

/--
A file name cut at its last dot into stem and extension.  A name that has no
dot, or has it only at its start, is all stem.
-/
def cutExtension (name : List Char) : List Char × Option (List Char) :=
  let extension := (name.reverse.takeWhile (· ≠ '.')).reverse
  let stem := name.take (name.length - extension.length - 1)
  if extension.length = name.length || stem.isEmpty then
    (name, none)
  else
    (stem, some extension)

/-- The extension of the last part, if it has one. -/
def extension? (path : String) : Option String := do
  let name ← fileName? path
  let extension ← (cutExtension name).2
  return String.ofList extension

def fileStem? (path : String) : Option String :=
  (fileName? path).map fun name => String.ofList (cutExtension name).1

end PhaseAssertions.Path
