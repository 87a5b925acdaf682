import PackageAtlas.View.Basic

/-!
# Diagrams

A view is written as a document in one of two formats.
-/
namespace PackageAtlas

inductive OutputFormat where
  | plantUml
  | json
deriving DecidableEq, Repr

/-- A finished diagram: its text and the ending of a file that holds it. -/
structure Document where
  extension : String
  text : String
deriving DecidableEq, Repr

namespace Diagram

def title (projectName viewName : String) : String :=
  projectName ++ "-" ++ viewName

/-- The label of the package at `path`; the path itself when the view has no such package. -/
def labelOf (view : View) (path : String) : String :=
  match view.find? path with
  | some package => package.label
  | none => path

end Diagram

end PackageAtlas
