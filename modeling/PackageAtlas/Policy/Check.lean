import PackageAtlas.Project.Hierarchy
import PackageAtlas.Project.Lookup

/-!
# Checking policies

Policies are judged on the dependencies between files of the whole project; the scope of views
has no part in it.
-/
namespace PackageAtlas

/-- What breaks a policy. -/
inductive Violator where
  /-- A forbidden dependency. -/
  | edge (source target : FileId)
  /-- No dependency reaches the target. -/
  | missingDependency
deriving DecidableEq, Repr

structure Violation where
  policy : Policy
  violator : Violator
deriving DecidableEq, Repr

namespace Project

/-- Declares one more policy. -/
def declare (project : Project) (policy : Policy) : Project :=
  { project with policies := project.policies ++ [policy] }

def findNode (project : Project) : NodeSelector → Except LookupError Node
  | .package path => (project.findPackage path).map .package
  | .file path => (project.findFile path).map .file

def resolveRule (project : Project) (rule : PolicyRule) : Except LookupError Policy := do
  let subject ← project.findNode rule.subject
  let target ← project.findNode rule.target
  return { kind := rule.kind, subject, target }

/-- Declares the rules in turn, up to the first that names something unknown. The answer has the
project with the policies declared so far, and what was unknown. -/
def applyRules (project : Project) : List PolicyRule → Project × Option LookupError
  | [] => (project, none)
  | rule :: rules =>
    match project.resolveRule rule with
    | .error unknown => (project, some unknown)
    | .ok policy => (project.declare policy).applyRules rules

/-- Whether a file lies in a part of the project. -/
def covers (project : Project) (node : Node) (id : FileId) : Bool :=
  match node with
  | .file file => id = file
  | .package package => project.isInSubtree (project.file id).package package

/-- The files of a part of the project. -/
def filesOf (project : Project) : Node → List FileId
  | .file id => [id]
  | .package id => project.filesInSubtree id

/-- The dependencies that leave `subject` and land in `target`, file by file. -/
def edgesBetween (project : Project) (subject target : Node) : List (FileId × FileId) :=
  (project.filesOf subject).flatMap fun source =>
    ((project.dependencies source).filter (project.covers target)).map fun reached =>
      (source, reached)

def check (project : Project) (policy : Policy) : List Violation :=
  let edges := project.edgesBetween policy.subject policy.target
  match policy.kind with
  | .cannotDependOn => edges.map fun edge => ⟨policy, .edge edge.1 edge.2⟩
  | .mustDependOn => if edges.isEmpty then [⟨policy, .missingDependency⟩] else []

/-- Everything that breaks a policy, policy by policy. -/
def violations (project : Project) : List Violation :=
  project.policies.flatMap project.check

/-- The first violation of the first broken policy. -/
def firstViolation? (project : Project) : Option Violation :=
  project.policies.findSome? fun policy => (project.check policy).head?

def nodeName (project : Project) : Node → String
  | .package id => (project.package id).dottedName
  | .file id => (project.file id).relative

end Project

def Violation.describe (violation : Violation) (project : Project) : String :=
  let policy := violation.policy
  let demand := "`" ++ project.nodeName policy.subject ++ "` " ++ policy.kind.phrase ++
    " `" ++ project.nodeName policy.target ++ "`, but "
  match violation.violator with
  | .edge source target =>
    demand ++ (project.file source).relative ++ " imports " ++ (project.file target).relative
  | .missingDependency => demand ++ "no such import exists"

end PackageAtlas
