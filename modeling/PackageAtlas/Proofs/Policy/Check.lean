import PackageAtlas.Proofs.Project.Edges

/-!
# What policies are judged on

The walk through the files of a part of a project and the test whether a file lies in a part agree,
so a policy is judged on exactly the dependencies between files that run between its two parts.
-/
namespace PackageAtlas.Project

variable {project : Project}

/-- Whether a part names a package or a file of the project. -/
def HasNode (project : Project) : Node → Prop
  | .package id => project.HasPackage id
  | .file id => project.HasFile id

instance (project : Project) : (node : Node) → Decidable (project.HasNode node)
  | .package id => inferInstanceAs (Decidable (project.HasPackage id))
  | .file id => inferInstanceAs (Decidable (project.HasFile id))

theorem WellFormed.mem_filesOf_iff (wellFormed : WellFormed project) {node : Node}
    (has : project.HasNode node) (id : FileId) :
    id ∈ project.filesOf node ↔ project.HasFile id ∧ project.covers node id = true := by
  cases node with
  | package top => exact wellFormed.mem_filesInSubtree_iff has id
  | file other =>
    rw [filesOf, List.mem_singleton, covers, decide_eq_true_iff]
    exact ⟨fun same => ⟨same ▸ has, same⟩, fun covered => covered.2⟩

theorem WellFormed.filesOf_nodup (wellFormed : WellFormed project) {node : Node}
    (has : project.HasNode node) : (project.filesOf node).Nodup := by
  cases node with
  | package top => exact wellFormed.filesInSubtree_nodup has
  | file other => exact List.nodup_singleton other

/-- Every dependency from `subject` to `target` is met once. -/
theorem WellFormed.edgesBetween_perm (wellFormed : WellFormed project) {subject : Node}
    (has : project.HasNode subject) (target : Node) :
    (project.edgesBetween subject target).Perm (project.edges.filter fun edge =>
      project.covers subject edge.1 && project.covers target edge.2) := by
  -- The walk takes all dependencies of the files of `subject` and keeps those that land.
  have walk : project.edgesBetween subject target =
      (project.edgesFrom (project.filesOf subject)).filter (project.covers target ·.2) := by
    rw [edgesBetween, edgesFrom, List.filter_flatMap]
    simp only [List.filter_map]
    rfl
  rw [walk]
  refine ((project.edgesFrom_perm (wellFormed.filesOf_nodup has)).filter _).trans ?_
  rw [List.filter_filter]
  refine List.Perm.of_eq (List.filter_congr ?_)
  intro edge inside
  have starts : edge.1 ∈ project.filesOf subject ↔ project.covers subject edge.1 = true :=
    (wellFormed.mem_filesOf_iff has edge.1).trans (and_iff_right (wellFormed.has_files inside).1)
  simp only [starts, Bool.decide_eq_true, Bool.and_comm]

/-! ### What no policy is judged on -/

/-- Whether two projects differ at most in their scopes and policies. -/
structure SameGraph (a b : Project) : Prop where
  packages : a.packages = b.packages
  files : a.files = b.files
  edges : a.edges = b.edges

theorem sameGraph_declare (project : Project) (policy : Policy) :
    SameGraph (project.declare policy) project :=
  ⟨rfl, rfl, rfl⟩

theorem sameGraph_rescope (project : Project) (scope : PackageId) :
    SameGraph { project with scope } project :=
  ⟨rfl, rfl, rfl⟩

namespace SameGraph

variable {a b : Project}

theorem package (same : SameGraph a b) : a.package = b.package := by
  funext id
  rw [Project.package, same.packages, Project.package]

theorem file (same : SameGraph a b) : a.file = b.file := by
  funext id
  rw [Project.file, same.files, Project.file]

theorem chain (same : SameGraph a b) : a.chain = b.chain := by
  -- The walks read packages only, so their recursions agree step by step.
  have walk (bound : Nat) (id : PackageId) :
      a.ancestorsWithin bound id = b.ancestorsWithin bound id := by
    induction bound generalizing id with
    | zero => rfl
    | succ bound ih => simp only [ancestorsWithin, same.package, ih]
  funext id
  rw [Project.chain, ancestors, walk, same.packages, Project.chain, ancestors]

theorem filesInSubtree (same : SameGraph a b) : a.filesInSubtree = b.filesInSubtree := by
  have walk (bound : Nat) : a.subtreeWithin bound = b.subtreeWithin bound := by
    induction bound with
    | zero => rfl
    | succ bound ih =>
      funext id
      simp only [subtreeWithin, same.package, ih]
  funext id
  simp only [Project.filesInSubtree, subtree, walk, same.package, same.packages]

/-- What breaks a policy depends neither on the scope nor on the policies that are declared. -/
theorem check (same : SameGraph a b) : a.check = b.check := by
  have same_files : a.filesOf = b.filesOf := by
    funext node
    cases node with
    | package id => exact congrFun same.filesInSubtree id
    | file id => rfl
  have same_covers : a.covers = b.covers := by
    funext node id
    cases node with
    | package top => simp only [covers, isInSubtree, same.chain, same.file]
    | file other => rfl
  have same_dependencies : a.dependencies = b.dependencies := by
    funext source
    simp only [dependencies, same.edges]
  have same_edges : a.edgesBetween = b.edgesBetween := by
    funext subject target
    rw [Project.edgesBetween, Project.edgesBetween, same_files, same_covers, same_dependencies]
  funext policy
  rw [Project.check, Project.check, same_edges]

end SameGraph

/-- One more policy adds what breaks it, and changes nothing else. -/
theorem violations_declare (project : Project) (policy : Policy) :
    (project.declare policy).violations = project.violations ++ project.check policy := by
  rw [violations, (sameGraph_declare project policy).check, violations, declare,
    List.flatMap_append, List.flatMap_singleton]

end PackageAtlas.Project
