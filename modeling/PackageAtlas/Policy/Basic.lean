import PackageAtlas.Project.Id

/-!
# Policies

A policy demands or forbids imports from one part of a project to another.
-/
namespace PackageAtlas

inductive PolicyKind where
  | mustDependOn
  | cannotDependOn
deriving DecidableEq, Repr

/-- The kind as a phrase between a subject and its target. -/
def PolicyKind.phrase : PolicyKind → String
  | .mustDependOn => "must depend on"
  | .cannotDependOn => "cannot depend on"

structure Policy where
  kind : PolicyKind
  subject : Node
  target : Node
deriving DecidableEq, Repr

/-- A part of a project as a configuration names it. -/
inductive NodeSelector where
  | package (path : String)
  | file (path : String)
deriving DecidableEq, Repr

structure PolicyRule where
  kind : PolicyKind
  subject : NodeSelector
  target : NodeSelector
deriving DecidableEq, Repr

end PackageAtlas
