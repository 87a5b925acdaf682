/-!
# Numbers of packages and files

The elements of a project refer to each other by number.
-/
namespace PackageAtlas

/-- The number of a package: its position in the project's list of packages. -/
structure PackageId where
  index : Nat
deriving DecidableEq, Repr, Inhabited

/-- The number of a file: its position in the project's list of files. -/
structure FileId where
  index : Nat
deriving DecidableEq, Repr, Inhabited

/-- A part of a project: a package with all that lies below it, or a single file. -/
inductive Node where
  | package (id : PackageId)
  | file (id : FileId)
deriving DecidableEq, Repr

end PackageAtlas
