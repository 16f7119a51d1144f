import LayeredConfig.Path

/-!
# Trees of files — what is on disk

A tree knows the working directory, and files and directories by their places: the parts of their
paths below the root of all directories. Relative paths start at the working directory, and a part
`..` leads to the directory above. Where there is no way the system finds nothing; a path or a name
that is too long it refuses to look for.
-/

namespace LayeredConfig

structure FileTree where
  root : Path
  files : List (List String × List UInt8)
  directories : List (List String)
  deriving Inhabited

namespace FileTree

/-- A directory is on the way to the working directory, was made, or holds something. -/
def isDirectoryAt (t : FileTree) (place : List String) : Bool :=
  (t.root.parts :: t.directories).any (place.isPrefixOf ·) ||
    t.files.any fun (file, _) => place.isPrefixOf file && place != file

/-- The last file written at a place. -/
def fileAt? (t : FileTree) (place : List String) : Option (List UInt8) :=
  (t.files.reverse.find? (·.1 == place)).map (·.2)

/-- Where a path leads; every part must start in a directory. -/
def walk? (t : FileTree) (place : List String) : List String → Option (List String)
  | [] => some place
  | part :: rest =>
    if t.isDirectoryAt place then
      t.walk? (if part = ".." then place.dropLast else place ++ [part]) rest
    else none

/-- The place where a path begins: the root of all directories, or the working directory. -/
def origin (root p : Path) : List String :=
  if p.isAbsolute then [] else root.parts

/-- The place of a path, if there is a way to it. -/
def resolve? (t : FileTree) (p : Path) : Option (List String) :=
  t.walk? (origin t.root p) p.parts

/-- The bytes that the name of a file may have. -/
def nameLimit : Nat := 255

/-- The bytes that a path may have. -/
def pathLimit : Nat := 4095

/-- Whether a name on the way is too long. A name is looked for in directories only, so behind what
is none the way has ended before. -/
def meetsLongName (t : FileTree) (place : List String) : List String → Bool
  | [] => false
  | part :: rest =>
    t.isDirectoryAt place && (nameLimit < part.utf8ByteSize ||
      t.meetsLongName (if part = ".." then place.dropLast else place ++ [part]) rest)

/-- Whether the system refuses to look for a path. -/
def refuses (t : FileTree) (p : Path) : Bool :=
  pathLimit < p.text.utf8ByteSize || t.meetsLongName (origin t.root p) p.parts

/-- The content of the file at a path. -/
def read? (t : FileTree) (p : Path) : Option (List UInt8) :=
  (t.resolve? p).bind t.fileAt?

def isFile (t : FileTree) (p : Path) : Bool :=
  (t.read? p).isSome

def isDirectory (t : FileTree) (p : Path) : Bool :=
  (t.resolve? p).any t.isDirectoryAt

/-- The place that a path names if no part leads up through a link. -/
def placeOf (root p : Path) : List String :=
  let step (place : List String) (part : String) :=
    if part = ".." then place.dropLast else place ++ [part]
  p.parts.foldl step (origin root p)

end FileTree

end LayeredConfig
