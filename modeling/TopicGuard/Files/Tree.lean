import TopicGuard.Files.Fault

/-!
# File trees

A file tree holds the files and directories below the directory that relative
paths start from.  Reading a path goes from name to name and fails at the first
one that cannot be followed: only a directory can be entered, a dot stays where
it is, and two dots lead back.  What lies above the starting directory is a
directory without known names.
-/

namespace TopicGuard

open Text (Bytes)

/-- What a tree has under some names. -/
inductive FileEntry where
  | file (bytes : Bytes)
  | directory
  deriving Repr, DecidableEq

/-- The entries of a tree, each under the names that lead to it. -/
structure FileTree where
  entries : List (List String × FileEntry)
  deriving Repr, DecidableEq

/-- A change of a tree. -/
inductive FileEdit where
  /-- Put a file, with the directories that lead to it. -/
  | write (path : String) (bytes : Bytes)
  /-- Make a directory, with the directories that lead to it. -/
  | makeDirectory (path : String)
  /-- Remove a file, or a directory with all that it holds. -/
  | delete (path : String)
  deriving Repr, DecidableEq

namespace FileTree

/-- The tree without entries. -/
def empty : FileTree :=
  ⟨[]⟩

instance : Inhabited FileTree :=
  ⟨empty⟩

/-- How many bytes a name may have. -/
def maxNameBytes : Nat := 255

/-- How many bytes a path may have. -/
def maxPathBytes : Nat := 4095

/-- The names in a path. -/
def names (path : String) : List String :=
  ((path.toList.splitOn '/').filter (fun name => !name.isEmpty)).map String.ofList

/-- Where a path leads: below the starting directory, or out of it. -/
abbrev Place := Option (List String)

/-- Where a path starts: one that begins with a slash starts out of the tree. -/
def start (path : String) : Place :=
  if path.toList.head? = some '/' then none else some []

/-- The directory that holds a place. -/
def parent : Place → Place
  | none => none
  | some names => if names.isEmpty then none else some names.dropLast

/-- The entry under some names. -/
def entry? (tree : FileTree) (names : List String) : Option FileEntry :=
  if names.isEmpty then some .directory else tree.entries.lookup names

/-- The tree with an entry under some names in the place of an older one. -/
def put (tree : FileTree) (names : List String) (entry : FileEntry) : FileTree :=
  ⟨(names, entry) :: tree.entries.filter (fun old => old.1 != names)⟩

/-- What is found at a place. -/
def entryAt? (tree : FileTree) : Place → Option FileEntry
  | none => some .directory
  | some names => tree.entry? names

/-! ## Reading -/

/-- Follow names from a place. -/
def walk (tree : FileTree) : Place → List String → Except FileFault Place
  | place, [] => .ok place
  | place, name :: rest =>
      if tree.entryAt? place ≠ some .directory then .error .notDirectory
      else if name = "." then walk tree place rest
      else if name = ".." then walk tree (parent place) rest
      else if maxNameBytes < name.utf8ByteSize then .error .nameTooLong
      else
        match place with
        | none => .error .notFound
        | some names =>
            if (tree.entry? (names ++ [name])).isSome then
              walk tree (some (names ++ [name])) rest
            else .error .notFound

/-- Read the file that a path leads to. -/
def read (tree : FileTree) (path : String) : Except FileFault Bytes :=
  if path.toList.contains '\x00' then .error .zeroInPath
  else if maxPathBytes < path.utf8ByteSize then .error .nameTooLong
  else if path = "" then .error .notFound
  else
    match tree.walk (start path) (names path) with
    | .error fault => .error fault
    | .ok place =>
        match tree.entryAt? place with
        | none => .error .notFound
        | some .directory => .error .isDirectory
        | some (.file bytes) =>
            if path.toList.getLast? = some '/' then .error .notDirectory else .ok bytes

/-! ## Changing

A path is followed for a change as it is for reading, and a change that the tree
does not allow leaves the tree as it is: nothing goes through a file, out of the
tree or into the place of a directory.
-/

/-- Follow names from a place and make the directories that are missing on the way. -/
def makeWay (tree : FileTree) : Place → List String → Option (FileTree × Place)
  | place, [] => some (tree, place)
  | place, name :: rest =>
      if tree.entryAt? place ≠ some .directory then none
      else if name = "." then makeWay tree place rest
      else if name = ".." then makeWay tree (parent place) rest
      else
        match place with
        | none => none
        | some names =>
            if (tree.entry? (names ++ [name])).isSome then
              makeWay tree (some (names ++ [name])) rest
            else makeWay (tree.put (names ++ [name]) .directory) (some (names ++ [name])) rest

/-- The names that lead to an entry of the directory at a place.  Dots name no entry. -/
def entryNames? (tree : FileTree) (place : Place) (name : Option String) :
    Option (List String) :=
  match place, name with
  | some names, some name =>
      if tree.entry? names ≠ some .directory ∨ name = "." ∨ name = ".." then none
      else some (names ++ [name])
  | _, _ => none

/-- The tree with a file, and with the directories that lead to it. -/
def write (tree : FileTree) (path : String) (bytes : Bytes) : FileTree :=
  match tree.makeWay (start path) (names path).dropLast with
  | none => tree
  | some (made, place) =>
      match made.entryNames? place (names path).getLast? with
      | none => tree
      | some target =>
          if made.entry? target = some .directory then tree
          else made.put target (.file bytes)

/-- The tree with a directory, and with the directories that lead to it. -/
def makeDirectory (tree : FileTree) (path : String) : FileTree :=
  match tree.makeWay (start path) (names path) with
  | none => tree
  | some (made, _) => made

/-- The tree without an entry and all that it holds. -/
def delete (tree : FileTree) (path : String) : FileTree :=
  match tree.walk (start path) (names path).dropLast with
  | .error _ => tree
  | .ok place =>
      match tree.entryNames? place (names path).getLast? with
      | none => tree
      | some target => ⟨tree.entries.filter fun old => !target.isPrefixOf old.1⟩

/-- The tree after a change. -/
def edit (tree : FileTree) : FileEdit → FileTree
  | .write path bytes => tree.write path bytes
  | .makeDirectory path => tree.makeDirectory path
  | .delete path => tree.delete path

end FileTree

end TopicGuard
