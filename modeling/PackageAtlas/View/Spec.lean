/-!
# View specifications

What a configuration says about one view.
-/
namespace PackageAtlas

inductive PackageSelector where
  /-- Every package whose path starts with the given text. -/
  | byPrefix (text : String)
  /-- The package at a path and what lies at most `depth` levels below it. -/
  | anchored (path : String) (depth : Nat)
deriving DecidableEq, Repr

structure ViewSpec where
  packages : List PackageSelector
  ignorePackages : List String
  /-- Whether packages are labelled with their dotted names; they are when nothing is said. -/
  usePathAsLabel : Option Bool
deriving DecidableEq, Repr, Inhabited

def ViewSpec.labelsByPath (spec : ViewSpec) : Bool :=
  spec.usePathAsLabel.getD true

end PackageAtlas
