/-
**File trees.**

What a program sees of the files around it. A path is followed component by component, from the root
or from the working directory: every component but the last has to be a directory, also one that the
path leaves again.
-/

import ResourceGraph.Files.Path

namespace ResourceGraph

/-- The UTF-8 text of some bytes. -/
def Text.ofBytes? (bytes : List UInt8) : Option String :=
  String.fromUTF8? ⟨bytes.toArray⟩

/-- What a path leads to. -/
inductive FileEntry where
  | file (bytes : List UInt8)
  | directory
deriving DecidableEq, Repr

/-- The files that a program sees, and where it works. -/
structure FileTree where
  /-- The components of the working directory's path. -/
  working : List String
  /-- What is there, by the components of its path. -/
  entries : List (List String × FileEntry)
deriving DecidableEq, Repr

namespace FileTree

/-- What the components of a path lead to. -/
def entryAt? (tree : FileTree) (components : List String) : Option FileEntry :=
  if components.isEmpty then some .directory else tree.entries.lookup components

/-- Whether the components of a path lead to a directory. -/
def isDirectoryAt (tree : FileTree) (components : List String) : Bool :=
  tree.entryAt? components == some .directory

/-- The parts of a path between slashes. -/
def parts (path : String) : List String :=
  Text.pieces '/' path

/-- Where a path starts: at the root or in the working directory. -/
def origin (tree : FileTree) (path : String) : List String :=
  if path.toList.head? = some '/' then [] else tree.working

/-- Follows the parts of a path from a directory. -/
def follow (tree : FileTree) (components : List String) : List String → Option (List String)
  | [] => some components
  | part :: rest =>
    if !tree.isDirectoryAt components then none
    else if part.isEmpty || part == "." then follow tree components rest
    else if part == ".." then follow tree components.dropLast rest
    else follow tree (components ++ [part]) rest

/-- The components that a path stands for, whether or not something is there. -/
def resolve? (tree : FileTree) (path : String) : Option (List String) :=
  if path.isEmpty then none else tree.follow (tree.origin path) (parts path)

/-- What a path leads to. -/
def entry? (tree : FileTree) (path : String) : Option FileEntry :=
  (tree.resolve? path).bind tree.entryAt?

/-- Whether a path leads to something. -/
def holds (tree : FileTree) (path : String) : Bool :=
  (tree.entry? path).isSome

/-- Whether a path leads to a directory. -/
def isDirectory (tree : FileTree) (path : String) : Bool :=
  tree.entry? path == some .directory

/-- The bytes of the file that a path leads to. -/
def bytes? (tree : FileTree) (path : String) : Option (List UInt8) :=
  match tree.entry? path with
  | some (.file bytes) => some bytes
  | _ => none

/-- Whether a path leads to a file. -/
def isFile (tree : FileTree) (path : String) : Bool :=
  (tree.bytes? path).isSome

/-- The names in a directory. -/
def namesIn? (tree : FileTree) (path : String) : Option (List String) :=
  match tree.resolve? path with
  | none => none
  | some components =>
    if tree.isDirectoryAt components then
      some (tree.entries.filterMap fun entry =>
        match entry.1.reverse with
        | [] => none
        | name :: parent => if parent.reverse = components then some name else none)
    else none

/-- Sets what the components of a path lead to. -/
def setAt (tree : FileTree) (components : List String) (entry : FileEntry) : FileTree :=
  { tree with
    entries := tree.entries.filter (fun old => old.1 != components) ++ [(components, entry)] }

/-- Adds an entry with the directories above it. -/
def add (tree : FileTree) (path : String) (entry : FileEntry) : FileTree :=
  let named := (parts path).filter fun part => !part.isEmpty && part != "."
  let components := tree.origin path ++ named
  let parents := (List.range components.length).tail.map fun count => components.take count
  let tree := parents.foldl (fun tree parent =>
    if tree.isDirectoryAt parent then tree else tree.setAt parent .directory) tree
  if entry == .directory && tree.isDirectoryAt components then tree
  else tree.setAt components entry

/-- An empty working directory at a path. -/
def empty (path : String) : FileTree :=
  let tree := add ⟨[], []⟩ path .directory
  { tree with working := (parts path).filter fun part => !part.isEmpty && part != "." }

/-- The tree without an entry and what is below it. -/
def remove (tree : FileTree) (path : String) : FileTree :=
  match tree.resolve? path with
  | none => tree
  | some components =>
    { tree with entries := tree.entries.filter fun entry => !components.isPrefixOf entry.1 }

/-! ### Writing -/

/-- Why a file cannot be written. -/
inductive WriteFailure where
  /-- The directory is not there. -/
  | notFound
  /-- Something on the way is no directory. -/
  | notDirectory
  /-- The path leads to a directory. -/
  | isDirectory
deriving DecidableEq, Repr

/-- The wording of a failure to write. -/
def WriteFailure.message : WriteFailure → String
  | notFound => "No such file or directory (os error 2)"
  | notDirectory => "Not a directory (os error 20)"
  | isDirectory => "Is a directory (os error 21)"

/-- Why the parts of a path cannot be followed. -/
def obstacle (tree : FileTree) (components : List String) : List String → WriteFailure
  | [] => .notFound
  | part :: rest =>
    match tree.entryAt? components with
    | none => .notFound
    | some (.file _) => .notDirectory
    | some .directory =>
      if part.isEmpty || part == "." then obstacle tree components rest
      else if part == ".." then obstacle tree components.dropLast rest
      else obstacle tree (components ++ [part]) rest

/-- Writes a file, whatever was in it; the directory has to be there. -/
def write (tree : FileTree) (path : String) (bytes : List UInt8) : Except WriteFailure FileTree :=
  match tree.resolve? path with
  | none => .error (tree.obstacle (tree.origin path) (parts path))
  | some components =>
    match tree.entryAt? components with
    | some .directory => .error .isDirectory
    | some (.file _) => .ok (tree.setAt components (.file bytes))
    | none =>
      if (parts path).getLast? = some "" then .error .isDirectory
      else .ok (tree.setAt components (.file bytes))

end FileTree

end ResourceGraph
