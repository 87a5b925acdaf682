import PackageAtlas.ModuleSearch

/-!
# Packages and files in a directory

A directory inside of a package is a package itself when it has a marker file. Links are neither
packages nor files of a package, and neither is what has a hidden name.
-/
namespace PackageAtlas.FileTree

/-- Names of directories that are no packages whatever they hold. -/
def skippedNames : List String := ["__pycache__", "node_modules", "venv"]

def isHidden (name : String) : Bool :=
  Text.startsWith "." name

/-- The directories directly inside of the one at a location that can be packages, by ascending
name. -/
def subdirectories (tree : FileTree) (location : Location) : List Location :=
  match tree.node? location with
  | none => []
  | some node =>
    let entered := node.children.filter fun (name, child) =>
      child.isDirectory && !isHidden name && !skippedNames.contains name
    entered.map fun (name, _) => location ++ [name]

/-- The directories below the one at a location, up to the given number of levels. Each is followed
by those inside of it. -/
def directoriesWithin (tree : FileTree) : Nat → Location → List Location
  | 0, _ => []
  | levels + 1, location =>
    (tree.subdirectories location).flatMap fun inner =>
      inner :: directoriesWithin tree levels inner

/-- All directories with a marker file below the one at a location, outer ones first. Those equally
deep stay in the order in which they are met. -/
def markedDirectories (tree : FileTree) (location : Location) : List Location :=
  -- Directories without a marker are entered as well, and what is marked inside of them is met.
  let met := tree.directoriesWithin tree.root.height location
  (met.filter fun directory => tree.isPackage directory.path).mergeSort
    fun a b => a.length ≤ b.length

/-- The names of the files directly in the directory at a location, in ascending order. -/
def fileNames (tree : FileTree) (location : Location) : List String :=
  match tree.node? location with
  | none => []
  | some node =>
    let files := node.children.filter fun (name, child) => child.isFile && !isHidden name
    files.map Prod.fst

end PackageAtlas.FileTree
