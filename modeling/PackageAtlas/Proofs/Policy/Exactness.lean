import PackageAtlas.Proofs.Policy.Check
import PackageAtlas.Proofs.Project.LogicalPaths

/-!
# Policies are judged exactly

What breaks a policy is said here by the dependencies of the project and the packages around their
files alone. The walk through the files of a part finds this, each dependency once, and nothing
else.
-/
namespace PackageAtlas.Project

variable {project : Project}

/-- Whether a file belongs to a part: it is the part itself, or the part is a package around it. -/
def Inside (project : Project) (id : FileId) : Node → Prop
  | .file file => id = file
  | .package top => top ∈ project.chain (project.file id).package

/-- Whether a dependency of the project runs from one part to another. -/
structure Runs (project : Project) (subject target : Node) (edge : FileId × FileId) : Prop where
  recorded : edge ∈ project.edges
  starts : project.Inside edge.1 subject
  lands : project.Inside edge.2 target

/-- Whether `breaches` is what breaks a policy. -/
def BrokenBy (project : Project) (policy : Policy) (breaches : List Violation) : Prop :=
  match policy.kind with
  | .cannotDependOn =>
    breaches.Nodup ∧ ∀ breach, breach ∈ breaches ↔
      ∃ edge, project.Runs policy.subject policy.target edge ∧
        breach = ⟨policy, .edge edge.1 edge.2⟩
  | .mustDependOn =>
    (∃ edge, project.Runs policy.subject policy.target edge) ∧ breaches = [] ∨
      (¬ ∃ edge, project.Runs policy.subject policy.target edge) ∧
        breaches = [⟨policy, .missingDependency⟩]

theorem covers_iff (node : Node) (id : FileId) :
    project.covers node id = true ↔ project.Inside id node := by
  cases node with
  | package top => rw [covers, isInSubtree, List.contains_iff_mem, Inside]
  | file other => rw [covers, decide_eq_true_iff, Inside]

theorem WellFormed.mem_edgesBetween_iff (wellFormed : WellFormed project) {subject : Node}
    (has : project.HasNode subject) (target : Node) (edge : FileId × FileId) :
    edge ∈ project.edgesBetween subject target ↔ project.Runs subject target edge := by
  rw [(wellFormed.edgesBetween_perm has target).mem_iff, List.mem_filter, Bool.and_eq_true,
    covers_iff, covers_iff]
  exact ⟨fun ⟨recorded, starts, lands⟩ => ⟨recorded, starts, lands⟩,
    fun runs => ⟨runs.recorded, runs.starts, runs.lands⟩⟩

theorem WellFormed.edgesBetween_nodup (wellFormed : WellFormed project) {subject : Node}
    (has : project.HasNode subject) (target : Node) :
    (project.edgesBetween subject target).Nodup :=
  (wellFormed.edgesBetween_perm has target).nodup_iff.mpr (wellFormed.edges_nodup.filter _)

theorem WellFormed.brokenBy_check (wellFormed : WellFormed project) {policy : Policy}
    (has : project.HasNode policy.subject) : project.BrokenBy policy (project.check policy) := by
  have runs_iff := wellFormed.mem_edgesBetween_iff has policy.target
  rw [BrokenBy, check]
  cases policy.kind with
  | cannotDependOn =>
    dsimp only
    constructor
    · -- Another dependency makes another violation.
      refine (wellFormed.edgesBetween_nodup has policy.target).map ?_
      rintro ⟨a, b⟩ ⟨c, d⟩ same
      cases same
      rfl
    · intro breach
      simp only [List.mem_map, runs_iff]
      exact exists_congr fun edge => and_congr_right fun _ => eq_comm
  | mustDependOn =>
    dsimp only
    cases found : project.edgesBetween policy.subject policy.target with
    | nil =>
      have none_runs : ¬ ∃ edge, project.Runs policy.subject policy.target edge := by
        rintro ⟨edge, runs⟩
        have member := (runs_iff edge).mpr runs
        rw [found] at member
        exact List.not_mem_nil member
      exact Or.inr ⟨none_runs, rfl⟩
    | cons edge rest =>
      have member : edge ∈ project.edgesBetween policy.subject policy.target := by
        rw [found]
        exact List.mem_cons_self
      exact Or.inl ⟨⟨edge, (runs_iff edge).mp member⟩, rfl⟩

/-- The check that stops at the first broken policy answers with the first of all violations. -/
theorem firstViolation?_eq_head? (project : Project) :
    project.firstViolation? = project.violations.head? := by
  rw [firstViolation?, violations]
  induction project.policies with
  | nil => rfl
  | cons policy rest ih =>
    rw [List.findSome?_cons, List.flatMap_cons, List.head?_append, ih]
    cases (project.check policy).head? <;> rfl

theorem violations_rescope (project : Project) (scope : PackageId) :
    { project with scope }.violations = project.violations := by
  rw [violations, (sameGraph_rescope project scope).check, violations]

theorem eq_rescope_of_changeScope {spelling : String} {scope : PackageId} {moved : Project}
    (changed : project.changeScope spelling = .ok (scope, moved)) :
    moved = { project with scope } := by
  unfold changeScope at changed
  cases found : project.findPackage spelling with
  | error unknown => simp [found, bind, Except.bind] at changed
  | ok package =>
    simp only [found, bind, Except.bind, pure, Except.pure, Except.ok.injEq,
      Prod.mk.injEq] at changed
    obtain ⟨rfl, rfl⟩ := changed
    rfl

/-- What a project reports is what breaks its policies, policy after policy: the forbidden
dependencies that exist, and the demanded ones that do not. The short check reports the first of
it, and from where views start plays no part in either. -/
theorem Reachable.violations_exact {names : String → Prop} (reachable : Reachable names project)
    (named : ∀ policy ∈ project.policies, project.HasNode policy.subject) :
    (∃ breaches : Policy → List Violation,
      project.violations = project.policies.flatMap breaches ∧
      ∀ policy ∈ project.policies, project.BrokenBy policy (breaches policy)) ∧
    project.firstViolation? = project.violations.head? ∧
    ∀ spelling scope moved, project.changeScope spelling = .ok (scope, moved) →
      moved.violations = project.violations ∧
        moved.firstViolation? = project.firstViolation? := by
  refine ⟨⟨project.check, rfl, fun policy declared => ?exactly⟩,
    project.firstViolation?_eq_head?, fun spelling scope moved changed => ?unmoved⟩
  case exactly => exact reachable.wellFormed.brokenBy_check (named policy declared)
  case unmoved =>
    have same : moved.violations = project.violations := by
      rw [eq_rescope_of_changeScope changed]
      exact project.violations_rescope scope
    exact ⟨same, by rw [firstViolation?_eq_head?, firstViolation?_eq_head?, same]⟩

/-- `sample` with a policy that its dependencies break twice, one that they keep, and one that
misses a dependency. -/
def guardedSample : Project :=
  ((sample.declare ⟨.cannotDependOn, .package ⟨1⟩, .package ⟨2⟩⟩).declare
    ⟨.mustDependOn, .package root, .file ⟨2⟩⟩).declare ⟨.mustDependOn, .file ⟨1⟩, .package ⟨1⟩⟩

/-- All three policies are judged in `guardedSample`, and the forbidden dependency that was recorded
first is reported first. -/
theorem sample_violations_exact :
    (∃ breaches : Policy → List Violation,
      guardedSample.violations = guardedSample.policies.flatMap breaches ∧
      ∀ policy ∈ guardedSample.policies, guardedSample.BrokenBy policy (breaches policy)) ∧
    guardedSample.violations.length = 3 ∧
    guardedSample.firstViolation? =
      some ⟨⟨.cannotDependOn, .package ⟨1⟩, .package ⟨2⟩⟩, .edge ⟨0⟩ ⟨1⟩⟩ := by
  have reachable : Reachable RelativeName guardedSample :=
    .declare _ (.declare _ (.declare _ sample_reachable))
  have named : ∀ policy ∈ guardedSample.policies, guardedSample.HasNode policy.subject := by
    decide +kernel
  obtain ⟨exactly, first_eq, -⟩ := reachable.violations_exact named
  exact ⟨exactly, by decide +kernel, first_eq.trans (by decide +kernel)⟩

end PackageAtlas.Project
