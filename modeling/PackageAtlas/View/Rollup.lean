import PackageAtlas.View.Label
import PackageAtlas.View.Selection

/-!
# Rolling up

A shown package carries the dependencies of its own files and of the files of hidden packages
below it, as far as no other shown package is nearer to them. Where a dependency ends is decided
alike.
-/
namespace PackageAtlas.Project

/-- The files of `id` and of hidden packages up to `bound` levels below it, with no shown package
in between. -/
def absorbedFilesWithin (project : Project) (shown : List PackageId) :
    Nat → PackageId → List FileId
  | 0, _ => []
  | bound + 1, id =>
    let hidden := (project.package id).children.filter (!shown.contains ·)
    (project.package id).files ++
      hidden.reverse.flatMap (absorbedFilesWithin project shown bound)

/-- The files whose dependencies the shown package `id` carries. -/
def absorbedFiles (project : Project) (shown : List PackageId) (id : PackageId) : List FileId :=
  project.absorbedFilesWithin shown project.packages.length id

/-- The nearest shown package among `id` and its ancestors. -/
def nearestShown? (project : Project) (shown : List PackageId) (id : PackageId) :
    Option PackageId :=
  (project.chain id).find? shown.contains

/-- The dependencies that leave the shown package `id`, each with the shown package it reaches. -/
def crossings (project : Project) (shown : List PackageId) (id : PackageId) :
    List (PackageId × FileRelation) :=
  (project.absorbedFiles shown id).flatMap fun source =>
    (project.dependencies source).filterMap fun target =>
      -- A dependency that lands nowhere in the view, or where it started, crosses nothing.
      match project.nearestShown? shown (project.file target).package with
      | none => none
      | some reached =>
        if reached = id then none
        else some (reached, ⟨(project.file source).relative, (project.file target).relative⟩)

def rolledUpDependencies (project : Project) (shown : List PackageId) (id : PackageId) :
    List ViewDependency :=
  let crossings := project.crossings shown id
  let reached := (crossings.map (·.1)).eraseDups
  let dependencies := reached.map fun destination =>
    let relations := (crossings.filter (·.1 = destination)).map (·.2)
    { source := (project.package id).relative
      destination := (project.package destination).relative
      count := relations.length
      relations := relations.mergeSort FileRelation.le
      state := .neutral
      mark := none : ViewDependency }
  dependencies.mergeSort fun a b => decide (a.destination ≤ b.destination)

def rolledUpPackage (project : Project) (shown : List PackageId) (id : PackageId) :
    ViewPackage :=
  let package := project.package id
  { path := package.relative
    name := package.dottedName
    label := package.dottedName
    state := .neutral
    dependencies := project.rolledUpDependencies shown id
    origin := id }

/-- The view of the project's scope that a specification asks for. -/
def view (project : Project) (spec : ViewSpec) : View :=
  let shown := project.shownPackages spec
  (View.ofList (shown.map (project.rolledUpPackage shown))).applyLabels spec.labelsByPath

end PackageAtlas.Project
