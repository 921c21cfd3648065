import CompactSql.Input.Source

/-!
# File trees

A tree of files and directories in memory, for a source that needs no disk. A path is looked up from
the root of the tree, one name after the other.

## Main definitions

* `FileTree` — the files and directories, by their paths.
* `FileTree.find` — what a path leads to.
* `FileTree.read` — the bytes of the file at a path.
* `FileTree.source` — a tree together with a standard input.
-/

namespace CompactSql

/-- The files and directories below a root, each with its names from the root on. A directory has
no bytes. -/
structure FileTree where
  entries : List (List Text × Option ByteArray)

namespace FileTree

/-- What is found below the root. -/
inductive Node where
  | file (bytes : ByteArray)
  | directory

/-- The tree of the given paths. -/
def ofPaths (paths : List (Text × Option ByteArray)) : FileTree :=
  ⟨paths.map fun (path, bytes?) => (path.splitOn '/', bytes?)⟩

/-- What the names from the root lead to. A directory need not be an entry of its own if there is
an entry below it. -/
def node? (t : FileTree) (names : List Text) : Option Node :=
  if names.isEmpty then some .directory
  else
    match t.entries.find? (·.1 == names) with
    | some (_, some bytes) => some (.file bytes)
    | some (_, none) => some .directory
    | none => if t.entries.any (names.isPrefixOf ·.1) then some .directory else none

/-- Whether a name leads to the directory in which it is looked up, or to the one above it. -/
def isDots (name : Text) : Bool := name.isEmpty || name = ['.'] || name = ['.', '.']

/-- Why nothing is found under a name: either it is longer than any name, or nothing has it. -/
def missing (name : Text) : ReadFault := if 255 < name.byteSize then .nameTooLong else .notFound

/-- What names lead to from above the root, where there are directories but nothing in them. -/
def aboveRoot : List Text → Except ReadFault Node
  | [] => .ok .directory
  | name :: names => if isDots name then aboveRoot names else .error (missing name)

/-- Goes on with the names of a path from the directory or file that `place` leads to. -/
def follow (t : FileTree) (place : List Text) : List Text → Except ReadFault Node
  | [] =>
    match t.node? place with
    | some node => .ok node
    | none => .error .notFound
  | name :: names =>
    match t.node? place with
    | none => .error .notFound
    | some (.file _) => .error .notDirectory
    | some .directory =>
      if name.isEmpty || name = ['.'] then t.follow place names
      else if name = ['.', '.'] then
        if place.isEmpty then aboveRoot names else t.follow place.dropLast names
      else if 255 < name.byteSize then .error .nameTooLong
      else t.follow (place ++ [name]) names

/-- What a path leads to, from the root of the tree unless it begins with a slash. -/
def find (t : FileTree) (path : Text) : Except ReadFault Node :=
  let names := path.splitOn '/'
  if path.head? = some '/' then aboveRoot names else t.follow [] names

/-- The bytes of the file at a path. -/
def read (t : FileTree) (path : Text) : Except ReadFault ByteArray :=
  if path.contains '\x00' then .error .nulInName
  else if path.isEmpty then .error .notFound
  else if 4096 ≤ path.byteSize then .error .nameTooLong
  else
    match t.find path with
    | .ok (.file bytes) => .ok bytes
    | .ok .directory => .error .isDirectory
    | .error e => .error e

/-- A source that reads from the tree and from given bytes. -/
def source (t : FileTree) (standardInput : ByteArray) : Source Id where
  file path := t.read path
  standardInput := Except.ok standardInput

end FileTree

end CompactSql
