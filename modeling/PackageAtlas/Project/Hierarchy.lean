import PackageAtlas.Project.Basic

/-!
# The package tree

Walks from a package to the root and down to all packages below it. A project has finitely many
packages and a parent is always older than its children, so the number of packages bounds the
length of every walk.
-/
namespace PackageAtlas.Project

/-- The first ancestors of `id`, at most `bound` of them. -/
def ancestorsWithin (project : Project) : Nat → PackageId → List PackageId
  | 0, _ => []
  | bound + 1, id =>
    match (project.package id).parent with
    | none => []
    | some parent => parent :: ancestorsWithin project bound parent

/-- The packages around `id`, nearest first, without itself. -/
def ancestors (project : Project) (id : PackageId) : List PackageId :=
  ancestorsWithin project project.packages.length id

def chain (project : Project) (id : PackageId) : List PackageId :=
  id :: project.ancestors id

def isInSubtree (project : Project) (id top : PackageId) : Bool :=
  (project.chain id).contains top

/-- The part of the subtree of `id` that is less than `bound` levels deep. -/
def subtreeWithin (project : Project) : Nat → PackageId → List PackageId
  | 0, _ => []
  | bound + 1, id => id :: (project.package id).children.flatMap (subtreeWithin project bound)

/-- `id` and every package below it; each is followed by the subtrees of its children in turn. -/
def subtree (project : Project) (id : PackageId) : List PackageId :=
  subtreeWithin project project.packages.length id

def descendants (project : Project) (id : PackageId) : List PackageId :=
  (project.subtree id).tail

def filesInSubtree (project : Project) (id : PackageId) : List FileId :=
  (project.subtree id).flatMap fun package => (project.package package).files

/-- The number of dependencies from files below `source` to files below `target`. -/
def dependencyCount (project : Project) (source target : PackageId) : Nat :=
  project.edges.countP fun edge =>
    project.isInSubtree (project.file edge.1).package source
      && project.isInSubtree (project.file edge.2).package target

end PackageAtlas.Project
