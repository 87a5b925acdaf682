import PackageAtlas.View.Basic

/-!
# Comparing views

A view is compared with a baseline. Packages of one side only are created or deleted together
with their dependencies; packages of both sides are compared dependency by dependency.
-/
namespace PackageAtlas

inductive Change where
  | packageCreated (path : String)
  | packageDeleted (path : String)
  | dependencyCreated (source destination : String) (count : Nat)
  | dependencyDeleted (source destination : String) (count : Nat)
  | countChanged (source destination : String) (delta : Int)
deriving DecidableEq, Repr

/-- The largest count that a difference takes into account. -/
def maxDelta : Nat := 9223372036854775807

/-- A count as the size of a change, cut off at the largest one. -/
def countDelta (count : Nat) : Int :=
  min count maxDelta

def signedText (delta : Int) : String :=
  if delta < 0 then toString delta else "+" ++ toString delta

namespace ViewDependency

def created (dependency : ViewDependency) : ViewDependency :=
  let delta := countDelta dependency.count
  { dependency with
    state := .created
    mark := some {
      change := .created
      delta
      label := toString dependency.count ++ " (" ++ signedText delta ++ ")" } }

def deleted (dependency : ViewDependency) : ViewDependency :=
  let delta := -countDelta dependency.count
  { dependency with
    state := .deleted
    mark := some {
      change := .deleted
      delta
      label := "0 (" ++ toString delta ++ ")" } }

def comparedTo (dependency : ViewDependency) : Option ViewDependency → ViewDependency
  | none => dependency.created
  | some baseline =>
    -- Only the counts are compared: other dependencies between files make no difference.
    if baseline.count = dependency.count then dependency
    else
      let delta := countDelta dependency.count - countDelta baseline.count
      { dependency with
        mark := some {
          change := .countChanged
          delta
          label := toString dependency.count ++ " (" ++ signedText delta ++ ")" } }

def change? (dependency : ViewDependency) : Option Change :=
  dependency.mark.map fun mark =>
    match mark.change with
    | .created =>
      .dependencyCreated dependency.source dependency.destination dependency.count
    | .deleted =>
      .dependencyDeleted dependency.source dependency.destination dependency.count
    | .countChanged =>
      .countChanged dependency.source dependency.destination mark.delta

end ViewDependency

namespace ViewPackage

def created (package : ViewPackage) : ViewPackage :=
  { package with
    state := .created
    dependencies := package.dependencies.map ViewDependency.created }

def deleted (package : ViewPackage) : ViewPackage :=
  { package with
    state := .deleted
    dependencies := package.dependencies.map ViewDependency.deleted }

/-- The dependencies of the baseline whose destination is gone, leaving from this package. -/
def removedSince (package baseline : ViewPackage) : List ViewDependency :=
  (baseline.dependencies.filter fun old => (package.dependency? old.destination).isNone).map
    -- The two packages have one path, which is written as this side has it.
    fun old => { old.deleted with source := package.path }

def comparedTo (package baseline : ViewPackage) : ViewPackage :=
  let kept := package.dependencies.map fun dependency =>
    dependency.comparedTo (baseline.dependency? dependency.destination)
  { package with
    state := .neutral
    dependencies := (kept ++ package.removedSince baseline).mergeSort
      fun a b => decide (a.destination ≤ b.destination) }

def changes (package : ViewPackage) : List Change :=
  let own := match package.state with
    | .created => [Change.packageCreated package.path]
    | .deleted => [Change.packageDeleted package.path]
    | .neutral => []
  own ++ package.dependencies.filterMap ViewDependency.change?

end ViewPackage

namespace View

/-- The packages of both views, each with what sets the two sides apart. -/
def diff (current baseline : View) : View :=
  let present := current.packages.map fun package =>
    match baseline.find? package.path with
    | some old => package.comparedTo old
    | none => package.created
  let gone := baseline.packages.filter fun old => (current.find? old.path).isNone
  ofList (present ++ gone.map ViewPackage.deleted)

def hasChanges (view : View) : Bool :=
  view.packages.any fun package =>
    package.state ≠ .neutral || package.dependencies.any (·.mark.isSome)

/-- The differences that a comparison found, package by package. -/
def changes (view : View) : List Change :=
  view.packages.flatMap ViewPackage.changes

end View

end PackageAtlas
