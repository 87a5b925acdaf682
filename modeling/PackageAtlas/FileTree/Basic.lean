import PackageAtlas.Path

/-!
# File trees

A file tree is what a program sees of a file system: directories, files and symbolic links below
one root, and the working directory that relative paths start from. A place in it is given by the
names on the way from the root.
-/
namespace PackageAtlas

/-- The names that lead from the root of a file tree to a place in it, the outermost first. -/
abbrev Location := List String

/-- The absolute path of a location. -/
def Location.path (location : Location) : Path :=
  ⟨"/" ++ Text.join '/' location⟩

namespace FileTree

inductive Node where
  | directory (entries : List (String × Node))
  /-- A file by its text, which is absent when the bytes of the file are no text. -/
  | file (text : Option String)
  /-- A symbolic link, by the path that it leads to. -/
  | link (target : String)
deriving Inhabited

namespace Node

def isDirectory : Node → Bool
  | .directory _ => true
  | _ => false

def isFile : Node → Bool
  | .file _ => true
  | _ => false

def text? : Node → Option String
  | .file text => text
  | _ => none

def child? (node : Node) (name : String) : Option Node :=
  match node with
  | .directory entries => entries.lookup name
  | _ => none

/-- The node at a location below this one. Links are not followed. -/
def at? (node : Node) : Location → Option Node
  | [] => some node
  | name :: rest =>
    match node.child? name with
    | none => none
    | some child => child.at? rest

/-- The names in a directory, in ascending order. -/
def names : Node → List String
  | .directory entries => (entries.map Prod.fst).eraseDups.mergeSort (· ≤ ·)
  | _ => []

/-- The entries of a directory, in ascending order of their names. -/
def children (node : Node) : List (String × Node) :=
  node.names.filterMap fun name => (node.child? name).map fun child => (name, child)

mutual
/-- The number of names on the longest way down. -/
def height : Node → Nat
  | .directory entries => heightOf entries
  | _ => 0

def heightOf : List (String × Node) → Nat
  | [] => 0
  | (_, node) :: rest => max (node.height + 1) (heightOf rest)
end

/-- Entries in which `name` stands for `node`, or for nothing. -/
def setEntry (name : String) (node : Option Node) (entries : List (String × Node)) :
    List (String × Node) :=
  (node.map fun node => (name, node)).toList ++ entries.filter (·.1 ≠ name)

/-- The node with another one at a location, or with none there. -/
def replace (node : Node) (new : Option Node) : Location → Node
  | [] => new.getD node
  | [name] =>
    match node with
    | .directory entries => .directory (setEntry name new entries)
    | _ => node
  | name :: rest =>
    match node with
    | .directory entries =>
      match entries.lookup name with
      -- The directory that holds the location has to be there.
      | none => node
      | some child => .directory (setEntry name (child.replace new rest) entries)
    | _ => node

end Node

end FileTree

structure FileTree where
  root : FileTree.Node
  here : Location

namespace FileTree

def empty : FileTree := ⟨.directory [], []⟩

/-- The node at a location. Links are not followed. -/
def node? (tree : FileTree) (location : Location) : Option Node :=
  tree.root.at? location

def insert (tree : FileTree) (location : Location) (node : Node) : FileTree :=
  { tree with root := tree.root.replace (some node) location }

def erase (tree : FileTree) (location : Location) : FileTree :=
  { tree with root := tree.root.replace none location }

end FileTree

end PackageAtlas
