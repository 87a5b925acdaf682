import PackageAtlas.LogicalPath
import PackageAtlas.View.Basic

/-!
# Labels

A package is labelled with its dotted name, or briefly with its last segment. A brief label
takes the segment before it as well when another package of no greater depth ends alike.
-/
namespace PackageAtlas

/-- The segments that a brief label is made of; the root package has its name alone. -/
def ViewPackage.segments (package : ViewPackage) : List String :=
  if package.path.isEmpty then [package.name] else LogicalPath.segments package.path

namespace View

/-- Whether some other package ends in the same segment and lies no deeper. -/
def isAmbiguous (view : View) (package : ViewPackage) : Bool :=
  view.packages.any fun other =>
    other.path ≠ package.path
      && other.segments.getLast? = package.segments.getLast?
      && other.segments.length ≤ package.segments.length

def briefLabel (view : View) (package : ViewPackage) : String :=
  let segments := package.segments
  let shown := if view.isAmbiguous package then 2 else 1
  Text.join '.' (segments.drop (segments.length - shown))

def applyLabels (view : View) (usePath : Bool) : View :=
  view.relabel fun package => if usePath then package.name else view.briefLabel package

end View

end PackageAtlas
