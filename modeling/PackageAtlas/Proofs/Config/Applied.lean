import PackageAtlas.Proofs.Config.Rebasing
import PackageAtlas.Proofs.Project.ModuleFiles
import PackageAtlas.Proofs.Project.Operations

/-!
# What a configuration asks of a project

The policies and the scope of a configuration name parts of a project. They can be applied exactly
to a project that has all these parts, and what it is built from plays no other role.
-/
namespace PackageAtlas

namespace Project

variable {project : Project}

theorem findNode_declare (project : Project) (policy : Policy) (selector : NodeSelector) :
    (project.declare policy).findNode selector = project.findNode selector := by
  cases selector <;> rfl

/-- Whether both ends of a rule are parts of the project. -/
def Knows (project : Project) (rule : PolicyRule) : Prop :=
  (∃ node, project.findNode rule.subject = .ok node) ∧
    ∃ node, project.findNode rule.target = .ok node

theorem exists_resolveRule_iff {rule : PolicyRule} :
    (∃ policy, project.resolveRule rule = .ok policy) ↔ project.Knows rule := by
  unfold resolveRule Knows
  cases project.findNode rule.subject <;> cases project.findNode rule.target <;>
    simp [bind, Except.bind, pure, Except.pure]

/-- Rules are declared up to the first with an unknown end. -/
theorem applyRules_eq_none_iff {rules : List PolicyRule} :
    (project.applyRules rules).2 = none ↔ ∀ rule ∈ rules, project.Knows rule := by
  induction rules generalizing project with
  | nil => simp [applyRules]
  | cons rule rest ih =>
    rw [applyRules, List.forall_mem_cons, ← exists_resolveRule_iff]
    cases resolved : project.resolveRule rule with
    | error unknown => simp
    | ok policy =>
      have same_ends (other : PolicyRule) :
          (project.declare policy).Knows other ↔ project.Knows other := by
        simp only [Knows, findNode_declare]
      simp [ih, same_ends]

theorem findPackage_applyRules (project : Project) (rules : List PolicyRule) (spelling : String) :
    (project.applyRules rules).1.findPackage spelling = project.findPackage spelling := by
  induction rules generalizing project with
  | nil => rfl
  | cons rule rest ih =>
    rw [applyRules]
    split
    next => rfl
    next policy _ => exact ih (project.declare policy)

theorem findPackage_of_changeScope {spelling : String} {scope : PackageId} {moved : Project}
    (changed : project.changeScope spelling = .ok (scope, moved)) :
    project.findPackage spelling = .ok scope := by
  unfold changeScope at changed
  cases found : project.findPackage spelling with
  | error unknown => simp [found, bind, Except.bind] at changed
  | ok id =>
    simp only [found, bind, Except.bind, pure, Except.pure, Except.ok.injEq, Prod.mk.injEq]
      at changed
    rw [changed.1]

theorem Reachable.applyRules {names : String → Prop} (reachable : Reachable names project)
    (rules : List PolicyRule) : Reachable names (project.applyRules rules).1 := by
  induction rules generalizing project with
  | nil => exact reachable
  | cons rule rest ih =>
    rw [Project.applyRules]
    split
    next => exact reachable
    next policy _ => exact ih (.declare policy reachable)

end Project

namespace Config

variable {config : Config} {project applied : Project}

/-- Whether a project has everything that the policies and the scope name. -/
structure Fits (config : Config) (project : Project) : Prop where
  policies : ∀ rule ∈ config.policies, project.Knows rule
  scope {spelling : String} : config.scope = some spelling →
    ∃ id, project.findPackage spelling = .ok id

theorem exists_applied_iff : (∃ applied, config.applied project = .ok applied) ↔
    config.Fits project := by
  have fits_iff : config.Fits project ↔ (project.applyRules config.policies).2 = none ∧
      ∀ spelling, config.scope = some spelling →
        ∃ id, project.findPackage spelling = .ok id := by
    rw [Project.applyRules_eq_none_iff]
    exact ⟨fun fits => ⟨fits.policies, fun _ => fits.scope⟩,
      fun fits => ⟨fits.1, fun {spelling} => fits.2 spelling⟩⟩
  have same_packages := project.findPackage_applyRules config.policies
  rw [fits_iff, Config.applied]
  generalize project.applyRules config.policies = declared at same_packages ⊢
  obtain ⟨declared, unknown⟩ := declared
  cases unknown with
  | some error => simp
  | none =>
    cases config.scope with
    | none => simp
    | some spelling =>
      have same : declared.findPackage spelling = project.findPackage spelling :=
        same_packages spelling
      simp only [Project.changeScope, same, true_and, Option.some.injEq, forall_eq']
      cases project.findPackage spelling <;> simp [bind, Except.bind, pure, Except.pure]

/-- Policies and a scope make no other project out of one that was built. -/
theorem reachable_applied {names : String → Prop} (reachable : Project.Reachable names project)
    (done : config.applied project = .ok applied) : Project.Reachable names applied := by
  have declared := reachable.applyRules config.policies
  rw [Config.applied] at done
  split at done
  next => cases done
  next after ruled =>
    rw [ruled] at declared
    split at done
    next => cases done; exact declared
    next spelling _ =>
      split at done
      next => cases done
      next scope moved changed =>
        cases done
        rw [Project.eq_rescope_of_changeScope changed]
        exact .rescope declared (Project.hasPackage_of_findPackage declared.wellFormed.tree
          (Project.findPackage_of_changeScope changed))

/-- The policies and the scope are applied to the project that is built. -/
theorem project_eq (config : Config) (tree : FileTree) :
    config.project tree = match config.model? tree with
      | none => .error (.noRootFolder config.rootFolder)
      | some project => config.applied project := by
  rw [Config.project, model?]
  dsimp only [StateT.run]
  generalize Project.build tree config.rootFolder _ = result
  obtain ⟨_ | project, analyzer⟩ := result <;> rfl

theorem project_of_model? {tree : FileTree} (built : config.model? tree = some project) :
    config.project tree = config.applied project := by
  rw [project_eq, built]

/-- Policies and a scope are the same in another checkout. -/
theorem applied_rebased (directory other : Path) :
    (config.rebased directory other).applied project = config.applied project :=
  rfl

/-- There is something to build exactly where the root folder leads somewhere. -/
theorem exists_model?_iff {tree : FileTree} (sound : tree.Sound) :
    (∃ project, config.model? tree = some project) ↔
      ∃ place, tree.locate? config.rootFolder = some place := by
  cases found : tree.locate? config.rootFolder with
  | none =>
    have nothing : config.model? tree = none := congrArg Prod.fst (Project.build_of_missing found)
    simp [nothing]
  | some place =>
    obtain ⟨project, built, -⟩ := Project.exists_builtAt sound .new found
    exact iff_of_true ⟨project, built⟩ ⟨place, rfl⟩

theorem reachable_model? {tree : FileTree} (sound : tree.Sound)
    (built : config.model? tree = some project) : Project.Reachable PlainName project := by
  obtain ⟨place, found⟩ := (exists_model?_iff sound).mp ⟨project, built⟩
  obtain ⟨same, built_too, builtAt⟩ := Project.exists_builtAt sound .new found
  cases built.symm.trans built_too
  exact builtAt.filled.reachable

theorem reachable_project {tree : FileTree} (sound : tree.Sound)
    (done : config.project tree = .ok applied) : Project.Reachable PlainName applied := by
  rw [project_eq] at done
  split at done
  next => cases done
  next project built => exact reachable_applied (reachable_model? sound built) done

end Config

end PackageAtlas
