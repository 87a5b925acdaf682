import PackageAtlas.FileTree.Locate

/-!
# Modules in a file tree

A directory with a marker file is a package, and the packages around a directory give a module
its dotted name. A module below a directory is a package or a source file.
-/
namespace PackageAtlas

/-- The file that makes a directory a package. -/
def packageMarker : String := "__init__.py"

namespace FileTree

def isPackage (tree : FileTree) (directory : Path) : Bool :=
  tree.isFile (directory.child packageMarker)

/-- The directory that absolute imports in a package start from: the nearest one around it that
is no package itself. -/
def importRoot (tree : FileTree) (directory : Path) : Path :=
  let around := directory.lineage
  (around.find? (!tree.isPackage ·)).getD (around.getLastD directory)

/-- The file of the module with the given parts of a name, looked for directly below a
directory. -/
def moduleIn? (tree : FileTree) (directory : Path) : List String → Option Path
  | [] => none
  | [name] =>
    let marker := (directory.child name).child packageMarker
    let source := directory.child (name ++ ".py")
    -- A package comes before a source file of the same name.
    if tree.isFile marker then some marker
    else if tree.isFile source then some source
    else none
  | name :: rest =>
    -- On the way to the last part every directory will do.
    let below := directory.child name
    if tree.isDirectory below then moduleIn? tree below rest else none

/-- The package that lies the given number of levels above a directory, through packages all the
way. -/
def packageAbove? (tree : FileTree) (directory : Path) : Nat → Option Path
  | 0 => if tree.isPackage directory then some directory else none
  | levels + 1 =>
    if tree.isPackage directory then
      match directory.parent? with
      | none => none
      | some parent => packageAbove? tree parent levels
    else none

/-- The names that lead from the import root to a package. -/
def packageNames (tree : FileTree) (directory : Path) : List String :=
  let packages := directory.lineage.takeWhile fun around =>
    tree.isPackage around && around.fileName?.isSome
  (packages.filterMap Path.fileName?).reverse

def nameParts (name : String) : List String :=
  (Text.split '.' name).filter (· ≠ "")

/-- The dotted name that a relative import in `directory` stands for: one dot means the package of
the directory, each further dot the package around it. Nothing where the dots lead out of the
packages. -/
def absoluteName? (tree : FileTree) (directory : Path) (level : Nat) (module : Option String) :
    Option String :=
  (tree.packageAbove? directory (level - 1)).map fun base =>
    Text.join '.' (tree.packageNames base ++ (module.map nameParts).getD [])

end FileTree

end PackageAtlas
