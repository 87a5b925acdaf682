import PackageAtlas.Project.Basic

/-!
# Lookup by logical path

Packages and files are found by the path a user writes: with dots or slashes, and with or
without the name of the root package in front.
-/
namespace PackageAtlas

/-- Why a name does not lead anywhere. Every case keeps the name as it was spelled. -/
inductive LookupError where
  | packageNotFound (path : String)
  | fileNotFound (path : String)
  | unknownViewPath (view path : String)
deriving DecidableEq, Repr

def LookupError.message : LookupError → String
  | .packageNotFound path => "package `" ++ path ++ "` could not be found"
  | .fileNotFound path => "file `" ++ path ++ "` could not be found"
  | .unknownViewPath view path =>
    "view `" ++ view ++ "` references `" ++ path ++ "`, which is not a package of this project"

namespace Project

/-- The package with the given logical path; the latest, should there be several. -/
def packageWithRelative? (project : Project) (relative : String) : Option PackageId :=
  (project.packages.reverse.find? (·.relative = relative)).map (·.id)

def fileWithRelative? (project : Project) (relative : String) : Option FileId :=
  (project.files.reverse.find? (·.relative = relative)).map (·.id)

/-- A logical path without the name of the root package at its start. -/
def dropRootName? (project : Project) (relative : String) : Option String :=
  let name := (project.package root).name
  if relative = name then some ""
  else (Text.dropStart? name relative).bind (Text.dropStart? "/")

def findPackage (project : Project) (spelling : String) : Except LookupError PackageId :=
  let relative := LogicalPath.normalize spelling
  -- A package whose path it is comes before one that needs the root's name taken off.
  let found := project.packageWithRelative? relative <|>
    (project.dropRootName? relative).bind project.packageWithRelative?
  match found with
  | some id => .ok id
  | none => .error (.packageNotFound spelling)

/-- The file that defines the module at a logical path: `path.py`, or else the marker file of
the package `path`. -/
def moduleFile? (project : Project) (relative : String) : Option FileId :=
  project.fileWithRelative? (relative ++ ".py") <|>
    project.fileWithRelative? (LogicalPath.child relative "__init__.py")

def findFile (project : Project) (spelling : String) : Except LookupError FileId :=
  let relative := LogicalPath.normalize spelling
  let found := project.moduleFile? relative <|>
    (project.dropRootName? relative).bind project.moduleFile?
  match found with
  | some id => .ok id
  | none => .error (.fileNotFound spelling)

def changeScope (project : Project) (spelling : String) :
    Except LookupError (PackageId × Project) := do
  let scope ← project.findPackage spelling
  return (scope, { project with scope })

end Project

end PackageAtlas
