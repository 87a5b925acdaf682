import PackageAtlas.Path

/-!
# Imports

What one import statement asks for, before any file is looked up.
-/
namespace PackageAtlas

/-- One imported module. The statement `import a, b` gives one record for each of the two. -/
structure Import where
  /-- The module's dotted name; absent in `from . import x`. -/
  module : Option String
  /-- The names behind `import` in a from-import, each with its alias; otherwise none. -/
  names : List (String × Option String)
  /-- Number of leading dots. -/
  level : Nat
deriving DecidableEq, Repr

namespace Import

def isRelative (imported : Import) : Bool :=
  0 < imported.level

/-- A from-import carries at least one name, a plain import none. -/
def isFromImport (imported : Import) : Bool :=
  !imported.names.isEmpty

end Import

/-- A source file that could be read and parsed, with its imports in source order. -/
structure ParsedModule where
  path : Path
  imports : List Import
deriving DecidableEq, Repr

end PackageAtlas
