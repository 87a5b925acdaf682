import PackageAtlas.Import
import PackageAtlas.LogicalPath
import PackageAtlas.Policy.Basic

/-!
# Projects

A project is a tree of packages with the files they hold and the dependencies between files.
Packages and files are numbered in the order in which they are added; the root package has
number zero. A path is added once: adding it again gives the number it already has.
-/
namespace PackageAtlas

/-- A directory of source files. -/
structure Package where
  id : PackageId
  path : Path
  /-- Logical path below the root package; empty for the root. -/
  relative : String
  name : String
  depth : Nat
  parent : Option PackageId
  children : List PackageId
  files : List FileId
deriving DecidableEq, Repr, Inhabited

/-- The name a package is shown with: its dotted path, or for the root its own name. -/
def Package.dottedName (package : Package) : String :=
  if package.relative.isEmpty then package.name else LogicalPath.dotted package.relative

structure SourceFile where
  id : FileId
  path : Path
  /-- Logical path below the root package, with the file's full name at the end. -/
  relative : String
  label : String
  package : PackageId
  /-- The parsed text; absent for files that are no Python sources. -/
  module : Option ParsedModule
deriving DecidableEq, Repr, Inhabited

structure Project where
  packages : List Package
  files : List SourceFile
  /-- Dependencies between files, in the order of first mention. -/
  edges : List (FileId × FileId)
  scope : PackageId
  policies : List Policy
deriving DecidableEq, Repr

namespace Project

def root : PackageId := ⟨0⟩

def new (directory : Path) : Project where
  packages := [{
    id := root
    path := directory
    relative := ""
    name := directory.fileName?.getD "root"
    depth := 0
    parent := none
    children := []
    files := [] }]
  files := []
  edges := []
  scope := root
  policies := []

/-- The package with the given number; a placeholder for a number of another project. -/
def package (project : Project) (id : PackageId) : Package :=
  project.packages[id.index]?.getD default

def file (project : Project) (id : FileId) : SourceFile :=
  project.files[id.index]?.getD default

def rootDirectory (project : Project) : Path :=
  (project.package root).path

def packageAt? (project : Project) (path : Path) : Option PackageId :=
  (project.packages.find? (·.path.Same path)).map (·.id)

def fileAt? (project : Project) (path : Path) : Option FileId :=
  (project.files.find? (·.path.Same path)).map (·.id)

/-- Adds the package for the directory `name` in `parent`, unless its path is there already. -/
def addPackage (project : Project) (parent : PackageId) (name : String) : PackageId × Project :=
  let above := project.package parent
  let path := above.path.child name
  match project.packageAt? path with
  | some existing => (existing, project)
  | none =>
    let id : PackageId := ⟨project.packages.length⟩
    let added : Package := {
      id
      path
      relative := LogicalPath.child above.relative name
      name
      depth := above.depth + 1
      parent := some parent
      children := []
      files := [] }
    let linked := project.packages.modify parent.index fun package =>
      { package with children := package.children ++ [id] }
    (id, { project with packages := linked ++ [added] })

/-- Adds the file `name` to a package, unless its path is there already. -/
def addFile (project : Project) (owner : PackageId) (name : String)
    (module : Option ParsedModule) : FileId × Project :=
  let package := project.package owner
  let path := package.path.child name
  match project.fileAt? path with
  | some existing => (existing, project)
  | none =>
    let id : FileId := ⟨project.files.length⟩
    let added : SourceFile := {
      id
      path
      relative := LogicalPath.child package.relative name
      label := name
      package := owner
      module }
    let linked := project.packages.modify owner.index fun package =>
      { package with files := package.files ++ [id] }
    (id, { project with packages := linked, files := project.files ++ [added] })

def addDependency (project : Project) (source target : FileId) : Project :=
  -- A known dependency stays where it is.
  if (source, target) ∈ project.edges then project
  else { project with edges := project.edges ++ [(source, target)] }

/-- The files that `source` imports, in the order in which they were recorded. -/
def dependencies (project : Project) (source : FileId) : List FileId :=
  project.edges.filterMap fun edge => if edge.1 = source then some edge.2 else none

end Project

end PackageAtlas
