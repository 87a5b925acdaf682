import PackageAtlas.Analyzer.Target
import PackageAtlas.Project.Basic
import PackageAtlas.Project.Discovery

/-!
# Building a project

A project is built from a directory: its packages are found, then their files, then the imports
between the files. Source files that cannot be parsed are left out.
-/
namespace PackageAtlas

/-- A file found in a package, with its module if it is a source file. -/
structure FoundFile where
  package : PackageId
  name : String
  module : Option ParsedModule

namespace Project

/-- The project with one more package, if the directory around it is a package. -/
def addPackageAt (project : Project) (location : Location) : Project :=
  match project.packageAt? (Location.path location.dropLast), location.getLast? with
  | some parent, some name => (project.addPackage parent name).2
  | _, _ => project

def ofDirectory (tree : FileTree) (root : Location) : Project :=
  (tree.markedDirectories root).foldl addPackageAt (new root.path)

/-- The files of all packages, by package and name. -/
def fileCandidates (project : Project) (tree : FileTree) : List (PackageId × String) :=
  project.packages.flatMap fun package =>
    match tree.locate? package.path with
    | none => []
    | some place => (tree.fileNames place.location).map fun name => (package.id, name)

def readFile (project : Project) (tree : FileTree) (package : PackageId) (name : String) :
    StateM Analyzer (Option FoundFile) := do
  let path := (project.package package).path.child name
  if path.extension? = some "py" then
    match ← Analyzer.parse tree path with
    | .ok module => return some ⟨package, name, some module⟩
    -- A source file that cannot be parsed is left out.
    | .error _ => return none
  else return some ⟨package, name, none⟩

def addFound (project : Project) (found : FoundFile) : Project :=
  (project.addFile found.package found.name found.module).2

/-- The dependencies of one file on the other files of the project. -/
def addTargets (project : Project) (file : FileId) (targets : List ImportTarget) : Project :=
  targets.foldl (fun project target =>
    match project.fileAt? target.path with
    | some destination =>
      -- A file that imports itself gets no dependency.
      if destination = file then project else project.addDependency file destination
    | none => project) project

def fileTargets (tree : FileTree) (file : SourceFile) :
    StateM Analyzer (FileId × List ImportTarget) := do
  match file.module with
  | none => return (file.id, [])
  | some module => return (file.id, ← Analyzer.targets tree module)

def buildAt (tree : FileTree) (root : Location) : StateM Analyzer Project := do
  let packages := ofDirectory tree root
  let found ← (packages.fileCandidates tree).mapM fun (package, name) =>
    packages.readFile tree package name
  let files := (found.filterMap id).foldl addFound packages
  let targets ← files.files.mapM (fileTargets tree)
  return targets.foldl (fun project (file, targets) => project.addTargets file targets) files

def build (tree : FileTree) (root : Path) : StateM Analyzer (Option Project) := do
  match tree.locate? root with
  | none => return none
  | some place => return some (← buildAt tree place.location)

end Project

end PackageAtlas
