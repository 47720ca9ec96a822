import StorageUpgrade.Error
import StorageUpgrade.Shell.Path

/-!
# Files

What a name leads to, and the files of a working directory as a tree.  The names of a path are
followed one by one: a name needs a directory to be looked up in, and `..` leads back to the
directory that was left.  Of the directories around the working directory nothing else is known.
Names and paths have a greatest length, in bytes, and hold no null character.
-/

namespace StorageUpgrade

/-- What a name leads to. -/
inductive Target where
  /-- Nothing has that name. -/
  | nothing
  /-- The name goes on behind the name of a file. -/
  | behindFile
  /-- The links on the way lead in a circle. -/
  | circle
  /-- Nothing can have such a name. -/
  | impossible
  /-- It cannot be found out what has that name: a name on the way, or the whole path, is longer than
  any that is looked up, or a directory on the way may not be searched, for example. -/
  | unreachable (problem : FileProblem)
  /-- A directory. -/
  | directory
  /-- A file that may not be read. -/
  | sealed
  /-- A file that may be read, under that very name or not. -/
  | file (content : String) (readable : Bool)
deriving DecidableEq, Repr

/-- Gives what a name leads to.  Halves of surrogate pairs in a name are given as the characters that
stand for them. -/
abbrev Files := String → Target

/-- The files of a working directory by the names of their paths, and the directories among them,
which have no content. -/
structure FileTree where
  entries : List (List String × Option String)
deriving Repr

namespace FileTree

/-- The tree of some files and directories that are given by their paths. -/
def ofEntries (entries : List (String × Option String)) : FileTree :=
  ⟨entries.map fun (name, content) => ((Path.ofText name).names, content)⟩

/-- What stands at a place; a directory is there also when only files inside it are given. -/
def at? (tree : FileTree) (place : List String) : Target :=
  match tree.entries.find? (·.1 == place) with
  | some (_, some content) => .file content true
  | some (_, none) => .directory
  | none =>
    if place.isEmpty || tree.entries.any fun e => place.isPrefixOf e.1 then .directory
    else .nothing

/-- The most bytes of a name in a path. -/
def maxNameBytes : Nat := 255

/-- The most bytes of a path. -/
def maxPathBytes : Nat := 4095

/-- What names lead to from outside of the tree. -/
def outside : List String → Target
  | [] => .directory
  | name :: names =>
    if name = ".." then outside names
    else if maxNameBytes < name.utf8ByteSize then .unreachable .nameTooLong else .nothing

/-- What names lead to from a place inside, whose names are given last one first. -/
def follow (tree : FileTree) (place : List String) : List String → Target
  | [] => tree.at? place.reverse
  | name :: names =>
    match tree.at? place.reverse with
    | .directory =>
      if name = ".." then
        match place with
        | [] => outside names
        | _ :: place => follow tree place names
      else if maxNameBytes < name.utf8ByteSize then .unreachable .nameTooLong
      else follow tree (name :: place) names
    | .nothing => .nothing
    | _ => .behindFile

/-- Whether the last part of a text is a name, and not only says that a directory stands there. -/
def endsWithName (name : String) : Bool :=
  match (splitAt '/' name.toList).getLast? with
  | some last => !(last.isEmpty || last == ['.'])
  | none => false

/-- What a name leads to.  The path of a file is found whether or not more slashes follow, but it
can only be read without them. -/
def find (tree : FileTree) : Files := fun name =>
  let path := Path.ofText name
  if name.toList.contains '\x00' then .impossible
  else if maxPathBytes < path.text.utf8ByteSize then .unreachable .nameTooLong
  else match if path.rooted then outside path.names else tree.follow [] path.names with
    | .file content _ => .file content (endsWithName name && name.utf8ByteSize ≤ maxPathBytes)
    | found => found

end FileTree
end StorageUpgrade
