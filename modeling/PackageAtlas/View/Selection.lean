import PackageAtlas.Project.Hierarchy
import PackageAtlas.Project.Lookup
import PackageAtlas.View.Spec

/-!
# Selecting packages

The packages that a specification shows all lie below the project's scope. A selector of either
form picks some of them, ignore patterns take packages away again.
-/
namespace PackageAtlas

/-- Whether a path matches an ignore pattern: `*text*` stands for any path with `text` in it,
everything else for the paths that start with it. -/
def matchesPattern (path pattern : String) : Bool :=
  match (Text.dropStart? "*" pattern).bind (Text.dropEnding? "*") with
  | some text => Text.contains (LogicalPath.normalize text) path
  | none => Text.startsWith (LogicalPath.normalize pattern) path

namespace Project

def selectorExists (project : Project) : PackageSelector → Bool
  -- A path with a `*` is not looked at.
  | .anchored path _ =>
    Text.contains "*" path || (project.findPackage path).toBool
  | .byPrefix text =>
    Text.contains "*" text ||
      project.packages.any fun package =>
        Text.startsWith (LogicalPath.normalize text) package.relative

/-- Fails at the first selector without `*` that names no package of the project. -/
def validateSpec (project : Project) (viewName : String) (spec : ViewSpec) :
    Except LookupError Unit :=
  match spec.packages.find? (!project.selectorExists ·) with
  | none => .ok ()
  | some (.anchored path _) => .error (.unknownViewPath viewName path)
  | some (.byPrefix text) => .error (.unknownViewPath viewName text)

/-- `anchor` and its descendants at most `depth` levels below it. -/
def expand (project : Project) (anchor : PackageId) (depth : Nat) : List PackageId :=
  (project.subtree anchor).filter fun id =>
    (project.package id).depth - (project.package anchor).depth ≤ depth

/-- The package an anchored selector starts from. -/
def anchor? (project : Project) (path : String) : Option PackageId :=
  let wanted := LogicalPath.normalize (String.ofList (path.toList.filter (· ≠ '*')))
  -- An empty path stands for the scope.
  if wanted.isEmpty then some project.scope else (project.findPackage wanted).toOption

def selectedBy (project : Project) (candidates : List PackageId) :
    PackageSelector → List PackageId
  | .byPrefix text =>
    candidates.filter fun id =>
      Text.startsWith (LogicalPath.normalize text) (project.package id).relative
  | .anchored path depth =>
    match project.anchor? path with
    | none => []
    | some anchor => if anchor ∈ candidates then project.expand anchor depth else []

/-- The packages that a specification shows, in the order of the scope's subtree. -/
def shownPackages (project : Project) (spec : ViewSpec) : List PackageId :=
  let candidates := project.subtree project.scope
  let selected :=
    if spec.packages.isEmpty then [project.scope]
    else spec.packages.flatMap (project.selectedBy candidates)
  candidates.filter fun id =>
    selected.contains id
      && !spec.ignorePackages.any (matchesPattern (project.package id).relative)

end Project

end PackageAtlas
